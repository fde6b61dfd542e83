import Reckon.Pattern.Basic

/-!
# Searching for a Pattern

All matches are followed at once. A set of places of a text is a natural number
whose bit `i` says whether place `i` is in it, and a pattern maps the set of
places where a match may begin to the set of places where one may end. Reading
one character from a set of places is an intersection and a shift, so the work
grows with the text and the pattern but not with the number of ways to match.

What a character set or a condition says about a text does not depend on how
often it is asked. `Plan` is a pattern in which both are replaced by the places
of one text where they hold.

## Main definitions

* `Plan`: A pattern made ready for one text.
* `Plan.ends`: From the places where matches begin to those where they end.
* `Pattern.occursIn`: Whether a pattern matches some stretch of a text.
-/

namespace Reckon

/-- A pattern made ready for one text. Sets of places are numbers, read bit by
    bit. -/
inductive Plan where
  | empty
  /-- One character, at the places given. -/
  | step (places : Nat)
  /-- No character, at the places given. -/
  | stay (places : Nat)
  | cat (a b : Plan)
  | alt (a b : Plan)
  | times (body : Plan) (least : Nat) (most : Option Nat)
deriving Inhabited

namespace Plan

/-- The places of a text whose character is in a set. -/
def setPlaces (s : CharSet) : List Char → Nat
  | [] => 0
  | c :: cs => 2 * setPlaces s cs + (s.contains c).toNat

/-- The places of a text, the one after its end included, at which a condition
    holds. -/
def conditionPlaces (condition : Condition) (before : Option Char) : List Char → Nat
  | [] => (condition.holds before none).toNat
  | c :: cs =>
    2 * conditionPlaces condition (some c) cs + (condition.holds before (some c)).toNat

/-- A pattern made ready for a text. -/
def of (text : List Char) : Pattern → Plan
  | .empty => .empty
  | .set s => .step (setPlaces s text)
  | .at condition => .stay (conditionPlaces condition none text)
  | .cat a b => .cat (of text a) (of text b)
  | .alt a b => .alt (of text a) (of text b)
  | .times body least most => .times (of text body) least most
  | .group _ body => of text body

/-- A map of sets of places applied a number of times. Once a set is mapped to
    itself, further applications change nothing. -/
def iterate (f : Nat → Nat) : Nat → Nat → Nat
  | 0, places => places
  | n + 1, places =>
    let next := f places
    if next = places then places else iterate f n next

/-- The places reached in up to `n` applications of a map. -/
def reach (f : Nat → Nat) (n places : Nat) : Nat :=
  iterate (fun seen => seen ||| f seen) n places

/-- The places where a match may end, given those where it may begin, for a text
    that has `places` places. No place is reached later than after as many
    repetitions as there are places. -/
def ends (places : Nat) : Plan → Nat → Nat
  | empty, begins => begins
  | step allowed, begins => (begins &&& allowed) <<< 1
  | stay allowed, begins => begins &&& allowed
  | cat a b, begins => b.ends places (a.ends places begins)
  | alt a b, begins => a.ends places begins ||| b.ends places begins
  | times body least most, begins =>
    let started := iterate (fun set => body.ends places set) least begins
    match most with
    | none => reach (fun set => body.ends places set) places started
    | some most => reach (fun set => body.ends places set) (most - least) started

end Plan

namespace Pattern

/-- Whether a pattern matches some stretch of a text. -/
def occursIn (p : Pattern) (text : List Char) : Bool :=
  let places := text.length + 1
  (Plan.of text p).ends places ((1 <<< places) - 1) != 0

end Pattern

end Reckon
