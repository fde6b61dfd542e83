import Reckon.Pattern.Basic

/-!
# Flags of Patterns

The flags in force at a place of a notation, and what they make of the marks
whose meaning depends on them. The letters are:

* `i`: letters match up to case;
* `m`: `^` and `$` match at every line;
* `s`: `.` matches everything;
* `x`: blanks and comments are skipped;
* `u`: classes and case forms are those of Unicode; at first it is set;
* `R`: a carriage return ends a line, too;
* `U`: repetitions prefer fewer, which makes no difference to whether a pattern
  matches.

Where `u` is cleared, a pattern speaks of ASCII characters only, as single bytes.
A set of bytes with members beyond ASCII could match a part of a character, so
there is no complement of a set then, and no dot.

## Main definitions

* `Pattern.Flags`: The flags in force.
* `Pattern.Flags.skip`: Skips blanks and comments.
* `Pattern.Flags.take`: Reads characters of one kind.

## Theorems

* `Pattern.Flags.length_skip_le`: Skipping never lengthens.
-/

namespace Reckon

namespace Pattern

/-- The flags in force at a place of a notation. -/
structure Flags where
  ignoreCase : Bool := false
  multiLine : Bool := false
  dotAll : Bool := false
  verbose : Bool := false
  /-- A carriage return ends a line. -/
  returns : Bool := false
  alphabet : Alphabet := .unicode
deriving DecidableEq, Repr, Inhabited

namespace Flags

/-- The flags with one of them set or cleared; `none` for an unknown letter. -/
def set? (flags : Flags) (letter : Char) (value : Bool) : Option Flags :=
  match letter with
  | 'i' => some { flags with ignoreCase := value }
  | 'm' => some { flags with multiLine := value }
  | 's' => some { flags with dotAll := value }
  | 'x' => some { flags with verbose := value }
  | 'R' => some { flags with returns := value }
  | 'u' => some { flags with alphabet := if value then .unicode else .ascii }
  | 'U' => some flags
  | _ => none

/-- What follows the blanks at the start of a notation, and the comments between
    them. The first argument says whether a comment is being read. A comment goes
    from `#` to the end of its line. -/
def skipBlanks : Bool → List Char → List Char
  | _, [] => []
  | true, c :: cs => skipBlanks (c != '\n') cs
  | false, c :: cs =>
    if Text.isBlank c then skipBlanks false cs
    else if c = '#' then skipBlanks true cs
    else c :: cs

/-- What follows the blanks and comments at the start of a notation, where these
    are skipped. -/
def skip (flags : Flags) (cs : List Char) : List Char :=
  if flags.verbose then skipBlanks false cs else cs

/-- Skipping blanks and comments never lengthens. -/
theorem length_skipBlanks_le (comment : Bool) (cs : List Char) :
    (skipBlanks comment cs).length ≤ cs.length := by
  induction cs generalizing comment with
  | nil => cases comment <;> exact Nat.le_refl 0
  | cons c cs ih =>
    cases comment with
    | true => exact Nat.le_succ_of_le (ih _)
    | false =>
      rw [skipBlanks]
      split
      · exact Nat.le_succ_of_le (ih _)
      · split
        · exact Nat.le_succ_of_le (ih _)
        · exact Nat.le_refl _

/-- Skipping never lengthens. -/
theorem length_skip_le (flags : Flags) (cs : List Char) : (flags.skip cs).length ≤ cs.length := by
  rw [skip]
  split
  · exact length_skipBlanks_le false cs
  · exact Nat.le_refl _

/-- The characters of one kind at the start of a notation, and what follows them.
    What is skipped may stand after each of them. -/
def take (flags : Flags) (kind : Char → Bool) : List Char → List Char × List Char
  | [] => ([], [])
  | c :: cs =>
    if kind c then
      let (taken, rest) := flags.take kind (flags.skip cs)
      (c :: taken, rest)
    else ([], c :: cs)
termination_by cs => cs.length
decreasing_by exact Nat.lt_succ_of_le (flags.length_skip_le cs)

/-- The number of hyphens at the start of a notation, and what follows them. What
    is skipped may stand after each of them. -/
def hyphens (flags : Flags) (cs : List Char) : Nat × List Char :=
  let (taken, rest) := flags.take (· == '-') cs
  (taken.length, rest)

/-- The set of characters that a class stands for, closed under case if need be. -/
def close (flags : Flags) (s : CharSet) : CharSet :=
  if flags.ignoreCase then .folded flags.alphabet s else s

/-- The characters that are not in a set. -/
def compl? (flags : Flags) (s : CharSet) : Option CharSet :=
  match flags.alphabet with
  | .unicode => some (.compl s)
  | .ascii => none

/-- A set or its complement. -/
def complIf? (flags : Flags) (negated : Bool) (s : CharSet) : Option CharSet :=
  if negated then flags.compl? s else some s

/-- Whether a character may be a member of a class. -/
def admits (flags : Flags) (c : Char) : Bool :=
  match flags.alphabet with
  | .unicode => true
  | .ascii => c.toNat < 0x80

/-- The pattern of one character. -/
def literal (flags : Flags) (c : Char) : Pattern :=
  .set (flags.close (.single c))

/-- The pattern of a dot. -/
def dot? (flags : Flags) : Option Pattern :=
  let lineEnds := if flags.returns then CharSet.ofRanges [('\n', '\n'), ('\r', '\r')]
    else .single '\n'
  (flags.compl? (if flags.dotAll then .none else lineEnds)).map .set

/-- The pattern of a caret. -/
def caret (flags : Flags) : Pattern :=
  .at (if !flags.multiLine then .textStart
    else if flags.returns then .returnLineStart
    else .lineStart)

/-- The pattern of a dollar sign. -/
def dollar (flags : Flags) : Pattern :=
  .at (if !flags.multiLine then .textEnd
    else if flags.returns then .returnLineEnd
    else .lineEnd)

end Flags

end Pattern

end Reckon
