/-!
# Sets of Code Points as Ranges

A set of code points written as the least number of ranges: in ascending order,
and no two of them touching. Two ways of building the same set give the same
list, so that what is counted on the list (its ranges, or the bytes that encode
them) belongs to the set.

## Main definitions

* `Text.RangeSet`: Ranges of code points.
* `Text.inRanges`: Membership.
* `RangeSet.insert`, `RangeSet.union`, `RangeSet.compl`, `RangeSet.inter`: The
  operations of sets.
-/

namespace Reckon

namespace Text

/-- Ranges of code points, both ends included. -/
abbrev RangeSet := List (Nat × Nat)

/-- Whether a code point lies in one of some ranges. -/
def inRanges (ranges : RangeSet) (n : Nat) : Bool :=
  ranges.any fun range => range.1 ≤ n && n ≤ range.2

/-- The greatest code point. -/
def lastPoint : Nat := 0x10FFFF

namespace RangeSet

/-- A set with a range added. The ranges that the new one meets or touches become
    a part of it. -/
def insert (first last : Nat) : RangeSet → RangeSet
  | [] => [(first, last)]
  | (a, b) :: rest =>
    if last + 1 < a then (first, last) :: (a, b) :: rest
    else if b + 1 < first then (a, b) :: insert first last rest
    else insert (min first a) (max last b) rest

/-- The code points of either set. -/
def union (s t : RangeSet) : RangeSet :=
  s.foldr (fun range t => insert range.1 range.2 t) t

/-- The code points from `start` on that are in no range of an ascending list. -/
def gaps (start : Nat) : RangeSet → RangeSet
  | [] => if start ≤ lastPoint then [(start, lastPoint)] else []
  | (a, b) :: rest =>
    if start < a then (start, a - 1) :: gaps (b + 1) rest else gaps (b + 1) rest

/-- The code points that are not in a set. -/
def compl (s : RangeSet) : RangeSet := gaps 0 s

/-- The code points of both sets. -/
def inter (s t : RangeSet) : RangeSet :=
  compl (union (compl s) (compl t))

/-- A set made of any ranges. -/
def ofRanges (ranges : List (Nat × Nat)) : RangeSet := union ranges []

end RangeSet

end Text

end Reckon
