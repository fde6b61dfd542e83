import Mathlib.Data.List.DropRight
import Mathlib.Data.List.TakeWhile
import Reckon.Text.Blank

/-!
# Trimmed Texts

Trimming takes the blanks off both ends of a text. What is taken off at the
start is what the offset of the trimmed text depends on (`Text.leading`). Of a
blank text nothing is left, and all of it counts as taken off at the end.

## Main definitions

* `Text.leading`, `Text.trailing`: The blanks that trimming takes off.

## Theorems

* `Text.trim_eq_nil`: Nothing is left of a blank text.
* `Text.leading_trim_trailing`: A text is its blanks and what trimming leaves.
* `Text.head_trim`: What is left does not start with a blank.
-/

namespace Reckon

namespace Text

variable {cs : List Char}

theorem trimEnd_eq_rdropWhile (cs : List Char) : trimEnd cs = cs.rdropWhile isBlank := rfl

theorem allBlank_iff : allBlank cs = true ↔ ∀ c ∈ cs, isBlank c = true :=
  List.all_eq_true

/-- Nothing is left of a blank text, and of no other one. -/
theorem trim_eq_nil : trim cs = [] ↔ allBlank cs = true := by
  rw [trim, trimEnd_eq_rdropWhile, List.rdropWhile_eq_nil_iff, allBlank_iff]
  constructor
  · intro h c hc
    rw [← List.takeWhile_append_dropWhile (p := isBlank) (l := cs)] at hc
    rcases List.mem_append.mp hc with hc | hc
    · exact List.mem_takeWhile_imp hc
    · exact h c hc
  · intro h c hc
    exact h c ((List.dropWhile_suffix isBlank).mem hc)

/-- The blanks that trimming takes off at the start. A blank text is taken off at
    its end. -/
def leading (cs : List Char) : List Char :=
  if allBlank cs then [] else cs.takeWhile isBlank

theorem isBlank_of_mem_leading {c : Char} (h : c ∈ leading cs) : isBlank c = true := by
  unfold leading at h
  split at h
  · cases h
  · exact List.mem_takeWhile_imp h

/-- The blanks that trimming takes off at the end. -/
def trailing (cs : List Char) : List Char :=
  if allBlank cs then cs else (trimStart cs).rtakeWhile isBlank

theorem isBlank_of_mem_trailing {c : Char} (h : c ∈ trailing cs) : isBlank c = true := by
  unfold trailing at h
  split at h
  next hblank => exact allBlank_iff.mp hblank c h
  next => exact List.mem_rtakeWhile_imp h

/-- A text is the trimmed text with the blanks around it. -/
theorem leading_trim_trailing (cs : List Char) : leading cs ++ (trim cs ++ trailing cs) = cs := by
  unfold leading trailing
  split
  next h =>
    rw [trim_eq_nil.mpr h]
    rfl
  next h =>
    rw [trim, trimEnd_eq_rdropWhile, List.rdropWhile_append_rtakeWhile, trimStart,
      List.takeWhile_append_dropWhile]

/-- A text that goes on is the trimmed text with the blanks around it, and what
    follows. -/
theorem append_eq_trim (cs more : List Char) :
    cs ++ more = leading cs ++ (trim cs ++ (trailing cs ++ more)) := by
  rw [← List.append_assoc (trim cs), ← List.append_assoc (leading cs), leading_trim_trailing]

/-- The trimmed text does not start with a blank. -/
theorem head_trim {c : Char} {rest : List Char} (h : trim cs = c :: rest) : isBlank c = false := by
  have hprefix : trim cs <+: trimStart cs := List.rdropWhile_prefix isBlank _
  rw [h] at hprefix
  rcases hprefix with ⟨after, hstart⟩
  have hhead := List.head?_dropWhile_not isBlank cs
  rw [← trimStart, ← hstart] at hhead
  exact hhead

end Text

end Reckon
