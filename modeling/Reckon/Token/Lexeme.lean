import Reckon.Text.Offset
import Reckon.Text.Quoted
import Reckon.Token.Basic

/-!
# Lexemes

The shapes that a text is cut into before any context is taken into account:
words, numbers, quoted texts, operator symbols and punctuation. The longest
shape that fits is taken. Between lexemes only four characters may stand
(`isSpacing`); any other character that starts no lexeme is a fault.

A word is a dotted path of names. Four words are constants rather than paths,
but not where a point follows directly: `this.` and `true.1` start with a path,
and the point that is left over is the fault.

## Main definitions

* `Lexeme`: The shapes.
* `Lexeme.scan?`: The longest lexeme at the start of a text.
* `Lexeme.next?`: The next lexeme of a text, with its place.

## Theorems

* `Lexeme.length_scan?_lt`, `Lexeme.length_next?_lt`: A lexeme is not empty.
-/

namespace Reckon

/-- The shape of a piece of text. -/
inductive Lexeme where
  | boolean (b : Bool)
  | null
  | self
  /-- A number without a point. -/
  | integer
  /-- A number with a point. -/
  | decimal
  | quoted
  /-- Names joined by points. -/
  | path
  | operator (op : Operator)
  | bang
  | equals
  | openParen
  | closeParen
  | openBracket
  | closeBracket
  | comma
deriving DecidableEq, Repr

namespace Lexeme

open Text

/-- The characters that may stand between lexemes. -/
def isSpacing (c : Char) : Bool := c == ' ' || c == '\t' || c == '\r' || c == '\n'

/-- The characters that start a name. -/
def isNameStart (c : Char) : Bool := c.isAlpha || c == '_' || c == '$'

/-- The characters of a name after its first. -/
def isNameChar (c : Char) : Bool := isNameStart c || c.isDigit

/-- The number of characters by which a path goes on after its first, added to
    `n`. A point belongs to the path only where another name starts after it. -/
def pathLength (n : Nat) : List Char → Nat
  | [] => n
  | '.' :: c :: cs => if isNameStart c then pathLength (n + 2) cs else n
  | c :: cs => if isNameChar c then pathLength (n + 1) cs else n

/-- The number of characters by which a number goes on after its first digit,
    and whether it has a point. -/
def numberLength (cs : List Char) : Lexeme × Nat :=
  let whole := (cs.takeWhile Char.isDigit).length
  match cs.drop whole with
  | '.' :: c :: tail =>
    if c.isDigit then (decimal, whole + 2 + (tail.takeWhile Char.isDigit).length)
    else (integer, whole)
  | _ => (integer, whole)

/-- The shape of a word, given what follows it. -/
def ofWord (word tail : List Char) : Lexeme :=
  if tail.head? = some '.' then path
  else
    match String.ofList word with
    | "true" => boolean true
    | "false" => boolean false
    | "null" => null
    | "this" => self
    | _ => path

/-- The longest symbol at the start of a text, with the number of its
    characters. -/
def symbol? : List Char → Option (Lexeme × Nat)
  | '+' :: _ => some (operator .add, 1)
  | '-' :: _ => some (operator .sub, 1)
  | '*' :: _ => some (operator .mul, 1)
  | '/' :: _ => some (operator .div, 1)
  | '%' :: _ => some (operator .mod, 1)
  | '=' :: '=' :: _ => some (operator .eq, 2)
  | '=' :: _ => some (equals, 1)
  | '!' :: '=' :: _ => some (operator .notEq, 2)
  | '!' :: _ => some (bang, 1)
  | '>' :: '>' :: '>' :: _ => some (operator .ushr, 3)
  | '>' :: '>' :: _ => some (operator .shr, 2)
  | '>' :: '=' :: _ => some (operator .gtEq, 2)
  | '>' :: _ => some (operator .gt, 1)
  | '<' :: '<' :: '<' :: _ => some (operator .ushl, 3)
  | '<' :: '<' :: _ => some (operator .shl, 2)
  | '<' :: '=' :: _ => some (operator .ltEq, 2)
  | '<' :: _ => some (operator .lt, 1)
  | '&' :: '&' :: _ => some (operator .and, 2)
  | '&' :: _ => some (operator .bitAnd, 1)
  | '|' :: '|' :: _ => some (operator .or, 2)
  | '|' :: _ => some (operator .bitOr, 1)
  | '~' :: '=' :: _ => some (operator .regex, 2)
  | '^' :: _ => some (operator .bitXor, 1)
  | '#' :: _ => some (operator .strAppend, 1)
  | '?' :: _ => some (operator .ternary, 1)
  | ':' :: _ => some (operator .ternaryElse, 1)
  | ';' :: _ => some (operator .endOfStatement, 1)
  | '(' :: _ => some (openParen, 1)
  | ')' :: _ => some (closeParen, 1)
  | '[' :: _ => some (openBracket, 1)
  | ']' :: _ => some (closeBracket, 1)
  | ',' :: _ => some (comma, 1)
  | _ => none

/-- A symbol is not empty. -/
theorem symbol?_pos {cs : List Char} {lexeme : Lexeme} {n : Nat}
    (h : symbol? cs = some (lexeme, n)) : 0 < n ∧ 0 < cs.length := by
  unfold symbol? at h
  split at h
  case h_33 => cases h
  all_goals
    simp only [Option.some.injEq, Prod.mk.injEq] at h
    obtain ⟨_, rfl⟩ := h
    simp only [List.length_cons]
    omega

/-- Whether a character may follow a backslash in a literal: all but the end of
    a line. -/
def mayEscape (c : Char) : Bool := c != '\n'

/-- The longest lexeme at the start of a text, with its characters and what
    follows them. -/
def scan? : List Char → Option (Lexeme × List Char × List Char)
  | [] => none
  | c :: cs =>
    if isNameStart c then
      let n := pathLength 0 cs
      let word := c :: cs.take n
      some (ofWord word (cs.drop n), word, cs.drop n)
    else if c.isDigit then
      let (lexeme, n) := numberLength cs
      some (lexeme, c :: cs.take n, cs.drop n)
    else if isQuote c then
      (afterQuote mayEscape c cs).map fun tail => (quoted, c :: upTo cs tail, tail)
    else (symbol? (c :: cs)).map fun (lexeme, n) => (lexeme, (c :: cs).take n, (c :: cs).drop n)

/-- A lexeme is not empty. -/
theorem length_scan?_lt {cs text tail : List Char} {lexeme : Lexeme}
    (h : scan? cs = some (lexeme, text, tail)) : tail.length < cs.length := by
  cases cs with
  | nil => cases h
  | cons c cs =>
    simp only [scan?] at h
    split at h
    · -- a word
      cases h
      simp only [List.length_cons, List.length_drop]; omega
    · split at h
      · -- a number
        cases h
        simp only [List.length_cons, List.length_drop]; omega
      · split at h
        · -- a quoted text
          simp only [Option.map_eq_some_iff, Prod.mk.injEq] at h
          obtain ⟨tail', h, _, _, rfl⟩ := h
          have := length_afterQuote_lt h
          simp only [List.length_cons]; omega
        · -- a symbol
          simp only [Option.map_eq_some_iff, Prod.mk.injEq] at h
          obtain ⟨found, h, _, _, rfl⟩ := h
          have := symbol?_pos h
          simp only [List.length_drop]; omega

/-- A lexeme in its place: what it is, where it starts, its text, and what
    follows it. -/
structure Placed where
  lexeme : Lexeme
  start : Nat
  text : List Char
  tail : List Char

/-- The byte offset just past a lexeme. -/
def Placed.stop (p : Placed) : Nat := p.start + width p.text

/-- The fault of a text that starts with no lexeme. -/
def faultAt (c : Char) (pos : Nat) : Token.Fault :=
  if isQuote c then .unterminatedString pos else .unexpectedChar pos c.toString

/-- The next lexeme of a text whose first byte has offset `offset`, or `none`
    if only spacing is left. -/
def next? (offset : Nat) (cs : List Char) : Except Token.Fault (Option Placed) :=
  let body := cs.dropWhile isSpacing
  let start := offset + width (cs.takeWhile isSpacing)
  match body with
  | [] => .ok none
  | c :: _ =>
    match scan? body with
    | some (lexeme, text, tail) => .ok (some ⟨lexeme, start, text, tail⟩)
    | none => .error (faultAt c start)

/-- What follows a lexeme is shorter than the text it was read from. -/
theorem length_next?_lt {offset : Nat} {cs : List Char} {p : Placed}
    (h : next? offset cs = .ok (some p)) : p.tail.length < cs.length := by
  have hbody := (List.dropWhile_sublist (l := cs) isSpacing).length_le
  simp only [next?] at h
  split at h
  · cases h
  · next c body heq =>
    split at h
    · next lexeme text tail hscan =>
      have := length_scan?_lt hscan
      cases h
      exact Nat.lt_of_lt_of_le this hbody
    · cases h

/-- The next lexeme of a text, where there is one. -/
def peek? (offset : Nat) (cs : List Char) : Option Placed :=
  match next? offset cs with
  | .ok found => found
  | .error _ => none

theorem length_peek?_lt {offset : Nat} {cs : List Char} {p : Placed}
    (h : peek? offset cs = some p) : p.tail.length < cs.length := by
  unfold peek? at h
  split at h
  · next found heq => subst h; exact length_next?_lt heq
  · cases h

end Lexeme

end Reckon
