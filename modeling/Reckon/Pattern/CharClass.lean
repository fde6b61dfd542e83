import Reckon.Pattern.Escape
import Reckon.Text.Cut

/-!
# Classes in Square Brackets

A class lists the members of a set: characters, ranges, escapes, named ASCII
classes, and classes inside classes. `&&`, `--` and `~~` combine what stands
before them with what stands after, up to the next operation.

How deeply a class is nested is read along with its set. Brackets, operations and
lists of two or more members each count as one level.

## Main definitions

* `Pattern.Layered`: Something read from a notation, with the depth of its nesting.
* `Pattern.ClassMembers`: The members read so far.
* `Pattern.charClass?`: Reads a class.
-/

namespace Reckon

namespace Pattern

/-- Something read from a notation, and how many levels are nested in it. -/
structure Layered (α : Type) where
  value : α
  depth : Nat
deriving Inhabited

/-- The ASCII class of a given name. -/
def asciiClass? : String → Option CharSet
  | "alnum" => some (.ofRanges [('0', '9'), ('A', 'Z'), ('a', 'z')])
  | "alpha" => some (.ofRanges [('A', 'Z'), ('a', 'z')])
  | "ascii" => some (.ofRanges [('\x00', '\x7f')])
  | "blank" => some (.ofRanges [('\t', '\t'), (' ', ' ')])
  | "cntrl" => some (.ofRanges [('\x00', '\x1f'), ('\x7f', '\x7f')])
  | "digit" => some Alphabet.ascii.digit
  | "graph" => some (.ofRanges [('!', '~')])
  | "lower" => some (.ofRanges [('a', 'z')])
  | "print" => some (.ofRanges [(' ', '~')])
  | "punct" => some (.ofRanges [('!', '/'), (':', '@'), ('[', '\x60'), ('\x7b', '~')])
  | "space" => some Alphabet.ascii.space
  | "upper" => some (.ofRanges [('A', 'Z')])
  | "word" => some Alphabet.ascii.word
  | "xdigit" => some (.ofRanges [('0', '9'), ('A', 'F'), ('a', 'f')])
  | _ => none

/-- A named ASCII class in its own brackets, of which the first has been read:
    whether it is complemented, its set, and what follows it. -/
def namedClass? : List Char → Option (Bool × CharSet × List Char)
  | ':' :: cs =>
    let (negated, body) :=
      match cs with
      | '^' :: tail => (true, tail)
      | _ => (false, cs)
    match Text.cutAt ':' body with
    | (name, some (']' :: tail)) =>
      (asciiClass? (String.ofList name)).map fun s => (negated, s, tail)
    | _ => none
  | _ => none

/-- One member of a class: a character or an escape. -/
def member? (flags : Flags) : List Char → Option (Escape × List Char)
  | [] => none
  | '\\' :: cs => escape? flags cs
  | c :: cs => some (.literal c, cs)

/-- The characters between two, if they do not run backward. -/
def range? (flags : Flags) (first last : Char) : Option CharSet :=
  if first ≤ last && flags.admits last then some (.range first last) else none

/-- One member of a class or a range of them, as a set. A hyphen is a range
    only where another member follows it. -/
def classItem? (flags : Flags) (cs : List Char) : Option (CharSet × List Char) :=
  match member? flags cs with
  | none => none
  | some (first, tail) =>
    let tail := flags.skip tail
    let isRange :=
      match tail with
      | '-' :: after =>
        match flags.skip after with
        | ']' :: _ => false
        | '-' :: _ => false
        | _ => true
      | _ => false
    if isRange then
      match first, member? flags (flags.skip (tail.drop 1)) with
      | .literal a, some (.literal b, tail) => (range? flags a b).map fun s => (s, tail)
      | _, _ => none
    else
      match first with
      | .literal c => (range? flags c c).map fun s => (s, tail)
      | .set s => some (s, tail)
      | .at _ => none

/-- The members read since a class began or since its last operation: their set,
    their number, and the levels of the deepest of them. -/
structure ClassMembers where
  set : CharSet := .none
  count : Nat := 0
  depth : Nat := 0
deriving Inhabited

namespace ClassMembers

/-- One member more. -/
def add (m : ClassMembers) (s : CharSet) (depth : Nat) : ClassMembers :=
  ⟨.union m.set s, m.count + 1, max m.depth depth⟩

/-- The members as one set. Two or more of them are a level of their own. -/
def layered (m : ClassMembers) : Layered CharSet :=
  ⟨m.set, if m.count ≤ 1 then m.depth else m.depth + 1⟩

end ClassMembers

/-- An operation that waits for what stands after it, and the levels of what
    stands before. -/
structure PendingOperation where
  apply : CharSet → CharSet
  depth : Nat

/-- What stands before an operation and what stands after it, combined. -/
def combine (pending : Option PendingOperation) (right : Layered CharSet) : Layered CharSet :=
  match pending with
  | none => right
  | some operation => ⟨operation.apply right.value, max operation.depth right.depth + 1⟩

/-- What stands before the first ordinary member of a class: a caret for the
    complement, then hyphens, or else a closing bracket, for themselves. -/
def classOpening (flags : Flags) (cs : List Char) : Bool × ClassMembers × List Char :=
  let (negated, body) :=
    match flags.skip cs with
    | '^' :: tail => (true, flags.skip tail)
    | tail => (false, tail)
  match flags.hyphens body with
  | (0, ']' :: tail) => (negated, ClassMembers.add {} (.single ']') 0, flags.skip tail)
  | (0, tail) => (negated, {}, tail)
  | (n, tail) => (negated, ⟨.single '-', n, 0⟩, tail)

mutual

/-- A class whose opening bracket has been read, with what follows it. `fuel`
    bounds the number of brackets and members. -/
def charClass? (fuel : Nat) (flags : Flags) (cs : List Char) :
    Option (Layered CharSet × List Char) :=
  match fuel with
  | 0 => none
  | fuel + 1 =>
    let (negated, opening, body) := classOpening flags cs
    match classBody? fuel flags none opening body with
    | none => none
    | some (members, tail) =>
      (flags.complIf? negated members.value).map fun s => (⟨s, members.depth + 1⟩, tail)

/-- The rest of a class, given the operation that waits, if there is one, and the
    members read since. -/
def classBody? (fuel : Nat) (flags : Flags) (pending : Option PendingOperation)
    (members : ClassMembers) (cs : List Char) : Option (Layered CharSet × List Char) :=
  match fuel with
  | 0 => none
  | fuel + 1 =>
    let right := members.layered
    let left := combine pending ⟨flags.close right.value, right.depth⟩
    let next (operation : CharSet → CharSet → CharSet) (tail : List Char) :=
      classBody? fuel flags (some ⟨operation left.value, left.depth⟩) {} tail
    match flags.skip cs with
    | ']' :: tail => some (left, tail)
    | '&' :: '&' :: tail => next .inter tail
    | '-' :: '-' :: tail => next .diff tail
    | '~' :: '~' :: tail => next .symmDiff tail
    | '[' :: tail =>
      match namedClass? tail with
      | some (negated, s, tail) =>
        match flags.complIf? negated (flags.close s) with
        | some s => classBody? fuel flags pending (members.add s 0) tail
        | none => none
      | none =>
        match charClass? fuel flags tail with
        | some (inner, tail) =>
          classBody? fuel flags pending (members.add inner.value inner.depth) tail
        | none => none
    | body =>
      match classItem? flags body with
      | some (s, tail) => classBody? fuel flags pending (members.add s 0) tail
      | none => none

end

end Pattern

end Reckon
