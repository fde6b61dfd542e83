import Reckon.Pattern.Parser
import Reckon.Pattern.Size

/-!
# Valid Patterns

A notation is valid if it has a meaning, is not nested too deeply, and stands for
a pattern that can be searched for in bounded space.

## Main definitions

* `Pattern.depthLimit`: How deeply a notation may be nested.
* `Pattern.ofNotation?`: The pattern of a valid notation.

## Theorems

* `Pattern.ofNotation?_eq_some_iff`: What a valid notation is.
-/

namespace Reckon

namespace Pattern

/-- The greatest number of levels of a notation. -/
def depthLimit : Nat := 250

/-- The pattern that a notation stands for, or `none` if the notation is not
    valid. -/
def ofNotation? (cs : List Char) : Option Pattern :=
  match parse? cs with
  | some read => if read.depth ≤ depthLimit && read.value.fits then some read.value else none
  | none => none

/-- A notation is valid, and stands for a pattern, if it can be read as that
    pattern and keeps both limits. -/
theorem ofNotation?_eq_some_iff {cs : List Char} {p : Pattern} :
    ofNotation? cs = some p ↔
      ∃ depth, parse? cs = some ⟨p, depth⟩ ∧ depth ≤ depthLimit ∧ p.fits = true := by
  rw [ofNotation?]
  constructor
  · intro h
    split at h
    · rename_i read hread
      split at h
      · rename_i hlimits
        rw [Option.some.injEq] at h
        rw [Bool.and_eq_true, decide_eq_true_eq] at hlimits
        rw [← h]
        exact ⟨read.depth, hread, hlimits⟩
      · exact absurd h (by simp)
    · exact absurd h (by simp)
  · rintro ⟨depth, hparse, hdepth, hfits⟩
    rw [hparse]
    simp [hdepth, hfits]

end Pattern

end Reckon
