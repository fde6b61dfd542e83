import Reckon.Decimal.Notation
import Reckon.Pattern.CharClass

/-!
# The Notation of Patterns

The usual notation of regular expressions, without back-references and without
look-around:

* a character for itself, `.` for any but the end of a line;
* escapes after a backslash, and classes in square brackets;
* `^` and `$`;
* `*`, `+`, `?` and counts in braces, each optionally followed by `?`, which
  makes no difference to whether a pattern matches;
* groups: capturing, named, or with flags; and flags for the rest of a group.

What has no meaning makes the whole notation invalid: an unbalanced bracket, a
repetition of nothing, an unknown escape, a range or a count that runs
backward.

How deeply a notation is nested is read along with its pattern. Groups, classes,
repetitions, sequences of two or more parts, and alternations each count as one
level around what they hold.

## Main definitions

* `Pattern.OpenGroup`: A group that is being read.
* `Pattern.Reading`: How far a notation has been read.
* `Pattern.parse?`: The pattern that a notation stands for, with its depth.
-/

namespace Reckon

namespace Pattern

/-- A number of repetitions with blanks around it, and what follows. -/
def count? (flags : Flags) (cs : List Char) : Option Nat × List Char :=
  let (digits, tail) := flags.take Char.isDigit (cs.dropWhile Text.isBlank)
  let n := Decimal.ofDigits digits
  (if digits.isEmpty || 0xFFFFFFFF < n then none else some n, tail.dropWhile Text.isBlank)

/-- The least and the most number of repetitions, from what follows an opening
    brace, with what follows the closing one. -/
def counts? (flags : Flags) (cs : List Char) : Option (Nat × Option Nat × List Char) :=
  match count? flags (flags.skip cs) with
  | (some least, '\x7d' :: tail) => some (least, some least, tail)
  | (some least, ',' :: tail) =>
    match flags.skip tail with
    | '\x7d' :: tail => some (least, none, tail)
    | tail =>
      match count? flags tail with
      | (some most, '\x7d' :: tail) => if least ≤ most then some (least, some most, tail) else none
      | _ => none
  | _ => none

/-- What follows the question mark of a repetition that prefers fewer. -/
def dropLazy : List Char → List Char
  | '?' :: cs => cs
  | cs => cs

/-- The flags that letters set and, after a hyphen, clear, up to a closing mark,
    and what stands from that mark on. No letter may come twice, and neither may
    the hyphen, which needs a letter after it. -/
def flagLetters? (flags : Flags) (seen : List Char) : List Char → Option (Flags × List Char)
  | [] => none
  | c :: cs =>
    if c = ':' ∨ c = ')' then if seen.head? = some '-' then none else some (flags, c :: cs)
    else if seen.contains c then none
    else if c = '-' then flagLetters? flags ('-' :: seen) cs
    else (flags.set? c (!seen.contains '-')).bind fun flags => flagLetters? flags (c :: seen) cs

/-- Whether a character may stand in the name of a group. The name begins with a
    letter or a low line. -/
def isGroupNameChar (first : Bool) (c : Char) : Bool :=
  c == '_' || Text.isAlphabetic c ||
    (!first && (Text.isNumeric c || c == '.' || c == '[' || c == ']'))

/-- What the opening parenthesis of a group and what follows it mean. -/
inductive Opening where
  /-- A group that captures, with its name if it has one. -/
  | capturing (name : Option (List Char)) (tail : List Char)
  /-- A group that does not capture, with the flags inside it. -/
  | plain (flags : Flags) (tail : List Char)
  /-- Flags for the rest of the enclosing group. -/
  | flags (flags : Flags) (tail : List Char)

/-- The name of a group up to its closing bracket. -/
def groupName? (cs : List Char) : Option Opening :=
  match Text.cutAt '>' cs with
  | (c :: name, some tail) =>
    if isGroupNameChar true c && name.all (isGroupNameChar false) then
      some (.capturing (some (c :: name)) tail)
    else none
  | _ => none

/-- What follows an opening parenthesis. -/
def opening? (flags : Flags) (cs : List Char) : Option Opening :=
  match flags.skip cs with
  | '?' :: 'P' :: '<' :: tail => groupName? tail
  | '?' :: '<' :: tail =>
    match tail with
    | '=' :: _ => none
    | '!' :: _ => none
    | _ => groupName? tail
  | '?' :: tail =>
    match flagLetters? flags [] tail with
    | some (inner, ':' :: rest) => some (.plain inner rest)
    | some (inner, ')' :: rest) => if tail.head? = some ')' then none else some (.flags inner rest)
    | _ => none
  | tail => some (.capturing none tail)

/-- A group that is being read: the flags to return to at its end, its number if
    it captures, the alternatives already read, and the parts of the current one.
    Both lists have their newest member first. A part is `none` where flags were
    set, since that is nothing to repeat. -/
structure OpenGroup where
  flags : Flags
  number : Option Nat := none
  alternatives : List (Layered Pattern) := []
  parts : List (Option (Layered Pattern)) := []

namespace OpenGroup

/-- The sequence of the parts of the current alternative. -/
def sequence (g : OpenGroup) : Layered Pattern :=
  let parts := g.parts.reverse.filterMap id
  let deepest := parts.foldl (fun depth part => max depth part.depth) 0
  ⟨parts.foldr (fun part rest => .cat part.value rest) .empty,
    if g.parts.length ≤ 1 then deepest else deepest + 1⟩

/-- What a whole group holds. -/
def body (g : OpenGroup) : Layered Pattern :=
  if g.alternatives.isEmpty then g.sequence
  else
    let all := g.alternatives.foldl
      (fun later earlier => ⟨.alt earlier.value later.value, max earlier.depth later.depth⟩)
      g.sequence
    ⟨all.value, all.depth + 1⟩

/-- A whole group as a part of the group around it. -/
def close (g : OpenGroup) : Layered Pattern :=
  ⟨.group g.number g.body.value, g.body.depth + 1⟩

/-- The group with one more part. -/
def add (g : OpenGroup) (part : Layered Pattern) : OpenGroup :=
  { g with parts := some part :: g.parts }

/-- The group after flags were set in it. -/
def addFlags (g : OpenGroup) : OpenGroup :=
  { g with parts := none :: g.parts }

/-- The group after an alternation bar. -/
def nextAlternative (g : OpenGroup) : OpenGroup :=
  { g with alternatives := g.sequence :: g.alternatives, parts := [] }

/-- The group with its last part repeated; `none` where there is none. -/
def repeatLast? (g : OpenGroup) (least : Nat) (most : Option Nat) : Option OpenGroup :=
  match g.parts with
  | some part :: parts =>
    some { g with parts := some ⟨.times part.value least most, part.depth + 1⟩ :: parts }
  | _ => none

end OpenGroup

/-- How far a notation has been read: the flags in force, the innermost open
    group, the groups around it, and the names and the number of the groups that
    capture. -/
structure Reading where
  flags : Flags := {}
  group : OpenGroup := ⟨{}, none, [], []⟩
  outer : List OpenGroup := []
  names : List (List Char) := []
  captures : Nat := 0

namespace Reading

/-- One more part of the innermost group. -/
def add (r : Reading) (part : Pattern) (depth : Nat) : Reading :=
  { r with group := r.group.add ⟨part, depth⟩ }

/-- The last part repeated. -/
def repeatLast? (r : Reading) (least : Nat) (most : Option Nat) : Option Reading :=
  (r.group.repeatLast? least most).map fun group => { r with group }

/-- What follows an opening parenthesis, taken up. No two groups have one name. -/
def enter? (r : Reading) : Opening → Option (Reading × List Char)
  | .capturing name tail =>
    if name.any r.names.contains then none
    else
      some
        ({ r with
            group := ⟨r.flags, some (r.captures + 1), [], []⟩
            outer := r.group :: r.outer
            names := name.toList ++ r.names
            captures := r.captures + 1 }, tail)
  | .plain flags tail =>
    some ({ r with flags, group := ⟨r.flags, none, [], []⟩, outer := r.group :: r.outer }, tail)
  | .flags flags tail => some ({ r with flags, group := r.group.addFlags }, tail)

/-- The innermost group closed; `none` where none is open. -/
def leave? (r : Reading) : Option Reading :=
  match r.outer with
  | [] => none
  | enclosing :: outer =>
    some { r with flags := r.group.flags, group := enclosing.add r.group.close, outer }

/-- The whole notation, if every group is closed. -/
def whole? (r : Reading) : Option (Layered Pattern) :=
  if r.outer.isEmpty then some r.group.body else none

/-- One step: what the next characters of a notation add, and what is left of
    them. -/
def step? (r : Reading) (c : Char) (tail : List Char) : Option (Reading × List Char) :=
  let repeated (least : Nat) (most : Option Nat) (tail : List Char) :=
    (r.repeatLast? least most).map fun r => (r, dropLazy tail)
  match c with
  | '(' => (opening? r.flags tail).bind r.enter?
  | ')' => r.leave?.map fun r => (r, tail)
  | '|' => some ({ r with group := r.group.nextAlternative }, tail)
  | '*' => repeated 0 none tail
  | '+' => repeated 1 none tail
  | '?' => repeated 0 (some 1) tail
  | '\x7b' =>
    (counts? r.flags tail).bind fun (least, most, tail) =>
      repeated least most (r.flags.skip tail)
  | '[' =>
    (charClass? (2 * tail.length + 2) r.flags tail).map fun (s, tail) =>
      (r.add (.set s.value) s.depth, tail)
  | '\\' =>
    (escape? r.flags tail).map fun (escape, tail) =>
      match escape with
      | .literal c => (r.add (r.flags.literal c) 0, tail)
      | .set s => (r.add (.set s) 0, tail)
      | .at condition => (r.add (.at condition) 0, tail)
  | '.' => r.flags.dot?.map fun dot => (r.add dot 0, tail)
  | '^' => some (r.add r.flags.caret 0, tail)
  | '$' => some (r.add r.flags.dollar 0, tail)
  | _ => some (r.add (r.flags.literal c) 0, tail)

/-- The rest of a notation. `fuel` bounds the number of steps. -/
def run? (fuel : Nat) (r : Reading) (cs : List Char) : Option (Layered Pattern) :=
  match fuel with
  | 0 => none
  | fuel + 1 =>
    match r.flags.skip cs with
    | [] => r.whole?
    | c :: tail => (r.step? c tail).bind fun (r, tail) => run? fuel r tail

end Reading

/-- The pattern that a notation stands for, and how deeply it is nested; `none` if
    the notation has no meaning. -/
def parse? (cs : List Char) : Option (Layered Pattern) :=
  Reading.run? (cs.length + 1) {} cs

end Pattern

end Reckon
