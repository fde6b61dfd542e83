/-!
# Cutting a Text

A text is cut in two at the first occurrence of a character, which belongs to
neither part.

## Main definitions

* `Text.cutAt`: The parts of a text before and after a character.
* `Text.after?`: What follows a given start.

## Theorems

* `Text.cutAt_of_not_mem`, `Text.cutAt_append`: What the parts are.
-/

namespace Reckon

namespace Text

/-- A text cut at its first `mark`: what stands before it, and what stands
    after it if there is one. -/
def cutAt (mark : Char) (cs : List Char) : List Char × Option (List Char) :=
  match cs.dropWhile (· != mark) with
  | [] => (cs, none)
  | _ :: tail => (cs.takeWhile (· != mark), some tail)

theorem cutAt_of_not_mem {mark : Char} {cs : List Char} (h : mark ∉ cs) :
    cutAt mark cs = (cs, none) := by
  have hcs : ∀ c ∈ cs, (c != mark) = true := fun c hc => bne_iff_ne.mpr fun heq => h (heq ▸ hc)
  have hnil : (cs ++ []).dropWhile (· != mark) = [] := List.dropWhile_append_of_pos hcs
  rw [List.append_nil] at hnil
  unfold cutAt
  rw [hnil]

theorem cutAt_append {mark : Char} {before : List Char} (h : mark ∉ before) (after : List Char) :
    cutAt mark (before ++ mark :: after) = (before, some after) := by
  have hbefore : ∀ c ∈ before, (c != mark) = true :=
    fun c hc => bne_iff_ne.mpr fun heq => h (heq ▸ hc)
  unfold cutAt
  rw [List.dropWhile_append_of_pos hbefore, List.takeWhile_append_of_pos hbefore,
    List.dropWhile_cons_of_neg (by simp), List.takeWhile_cons_of_neg (by simp), List.append_nil]

/-- What follows `start` in a text that begins with it. -/
def after? (start cs : List Char) : Option (List Char) :=
  if start.isPrefixOf cs then some (cs.drop start.length) else none

end Text

end Reckon
