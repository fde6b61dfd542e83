import Reckon.Decimal.Rounding

/-!
# Similarity

How much of the shorter of two texts is found in the longer one. Its characters
are looked for one after the other, each after the place where the last one was
found; one that is not found is passed over. The score is the share of the
longer text that was found, with four digits. Two empty texts are alike.

What is found is counted in 32 bits, and so is the length that it is a share of.
The two differ in what becomes of a number that does not fit: the length is taken
to be the largest number, and where more characters are found there is no score.

## Main definitions

* `Similarity.found`: How many characters are found in order.
* `Similarity.share`: A number of characters as a share of a length.
* `Similarity.score`, `Similarity.score?`: The share found, if it can be counted.
-/

namespace Reckon

namespace Similarity

/-- How many characters of a text are found in another, in order, when each is
    taken at its first place after the last one found. -/
def found : List Char → List Char → Nat
  | [], _ => 0
  | c :: cs, text =>
    match text.dropWhile (· != c) with
    -- A character that is nowhere behind the last one found is skipped.
    | [] => found cs text
    | _ :: tail => found cs tail + 1

/-- The digits after the point that a score has. -/
def scale : Nat := 4

/-- The largest number of characters that is counted. -/
def countLimit : Nat := 0xFFFFFFFF

/-- A number of characters as a share of a length, in units of the last digit of
    a score. A length that can not be counted is the largest one that can. -/
def share (count length : Nat) : Int :=
  Rounding.halfUp.quotient (count * Decimal.powerOfTen scale) (min length countLimit : Nat)

/-- Which of two texts is looked for, and in which. Of two texts of one length the
    first is looked for in the second. -/
def roles (a b : List Char) : List Char × List Char :=
  if a.length ≤ b.length then (a, b) else (b, a)

/-- The share of the longer of two texts in which the shorter one is found. -/
def score (a b : List Char) : Decimal :=
  let (shorter, longer) := roles a b
  if longer.isEmpty then .ofInt 1 else ⟨share (found shorter longer) longer.length, scale⟩

/-- The score of two texts, if what is found can be counted. -/
def score? (a b : List Char) : Option Decimal :=
  let (shorter, longer) := roles a b
  if countLimit < found shorter longer then none else some (score a b)

end Similarity

end Reckon
