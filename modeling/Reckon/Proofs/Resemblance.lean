import Reckon.Operation
import Reckon.Proofs.Division

/-!
# Which Text Is Looked For in Which

A similarity is the share of the longer of two texts in which the shorter one is found.
Which of them is which is told by their lengths, so the order in which they are given makes
no difference, as long as one of them is longer. Of two texts of one length the first is
looked for in the second. As every character is taken at its first place after the last one
found, it matters then which one is read along: of `abc` all but the last character is
found in `cab`, but only `c` is found the other way round.

Only the number of characters that are found decides. Where it is the same both ways, the
scores are. Where it is not, they could still be rounded to the same digits, but only if the
texts are so long that one character is less than the last digit of a score
(`Operator.apply_similarity`). Texts that are too long to be counted are no exception. What
is found in one of them may have no score, though, and two that have none are alike as well.

## Main definitions

* `Similarity.share?`: The share of a number of characters that can be counted.

## Theorems

* `Similarity.share_inj`: Up to a length, shares tell numbers of characters apart.
* `Similarity.score?_comm`, `Similarity.score?_comm_iff`: Texts of different lengths, and of
  one length.
* `Operator.apply_similarity`: When the order of the operands makes no difference.
-/

namespace Reckon

namespace Similarity

/-- A number of characters as a share of a length, if it can be counted. -/
def share? (count length : Nat) : Option Int :=
  if countLimit < count then none else some (share count length)

theorem share_eq (count : Nat) {length : Nat} (h : length ≠ 0) (hlimit : length ≤ countLimit) :
    share count length = ⌊(count * 10 ^ scale / length : ℚ) + 1 / 2⌋ := by
  have hne : (length : Int) ≠ 0 := by exact_mod_cast h
  have hshare : ((count * Decimal.powerOfTen scale : Int) : ℚ) / ((length : Int) : ℚ) =
      count * 10 ^ scale / length := by
    push_cast
    rw [Decimal.cast_powerOfTen]
  rw [share, Nat.min_eq_left hlimit, Rounding.quotient_eq_ofRat _ _ _ hne, hshare,
    Rounding.ofRat, if_pos (by positivity)]

/-- A character more makes a larger share, where it is at least one unit of the last digit. -/
theorem share_lt {j k length : Nat} (h : j < k) (hpos : length ≠ 0)
    (hlength : length ≤ Decimal.powerOfTen scale) : share j length < share k length := by
  have hlimit : length ≤ countLimit := hlength.trans (by decide)
  rw [share_eq j hpos hlimit, share_eq k hpos hlimit, Int.lt_iff_add_one_le, ← Int.floor_add_one]
  apply Int.floor_le_floor
  have hlength' : (length : ℚ) ≤ 10 ^ scale := by
    rw [← Decimal.cast_powerOfTen]
    exact_mod_cast hlength
  have hone : (1 : ℚ) ≤ 10 ^ scale / length := by
    rw [one_le_div (by positivity)]
    exact hlength'
  have hstep : (j : ℚ) + 1 ≤ k := by exact_mod_cast h
  -- The larger number is one more at least, and that adds a unit.
  have hle : (j + 1) * (10 ^ scale / length : ℚ) ≤ k * (10 ^ scale / length) :=
    mul_le_mul_of_nonneg_right hstep (by positivity)
  rw [mul_div_assoc, mul_div_assoc]
  linarith

/-- Shares of a text that is not too long tell numbers of characters apart. -/
theorem share_inj {j k length : Nat} (hpos : length ≠ 0)
    (hlength : length ≤ Decimal.powerOfTen scale) :
    share j length = share k length ↔ j = k := by
  constructor
  · intro h
    rcases Nat.lt_trichotomy j k with hlt | heq | hlt
    · exact absurd h (share_lt hlt hpos hlength).ne
    · exact heq
    · exact absurd h (share_lt hlt hpos hlength).ne'
  · rintro rfl
    rfl

variable {a b : List Char}

/-- The shorter of two texts is looked for in the longer one, in whichever order they are
    given. -/
theorem roles_comm (h : a.length ≠ b.length) : roles a b = roles b a := by
  unfold roles
  by_cases hle : a.length ≤ b.length
  · rw [if_pos hle, if_neg (by omega)]
  · rw [if_neg hle, if_pos (by omega)]

theorem score?_comm (h : a.length ≠ b.length) : score? a b = score? b a := by
  rw [score?, score?, score, score, roles_comm h]

/-- Of two texts of one length the first is looked for in the second. -/
theorem score?_of_length_eq (h : a.length = b.length) (hne : b ≠ []) :
    score? a b = (share? (found a b) b.length).map fun n => ⟨n, scale⟩ := by
  have hempty : ¬ b.isEmpty = true := by simpa using hne
  simp only [score?, score, roles, if_pos h.le, if_neg hempty, share?]
  split <;> rfl

/-- No more characters are found than there are to be looked for. -/
theorem found_le (cs text : List Char) : found cs text ≤ cs.length := by
  fun_induction found cs text with
  | case1 => exact Nat.le_refl 0
  | case2 c cs text _ ih => exact Nat.le_succ_of_le ih
  | case3 c cs text _ tail _ ih => exact Nat.succ_le_succ ih

/-- The scores of two texts of one length are the same if the characters found both ways
    have the same share. -/
theorem score?_comm_iff (h : a.length = b.length) :
    score? a b = score? b a ↔ share? (found a b) a.length = share? (found b a) a.length := by
  by_cases hb : b = []
  · have ha : a = [] := List.eq_nil_of_length_eq_zero (by rw [h, hb]; rfl)
    simp only [ha, hb]
  · have ha : a ≠ [] := by
      rintro rfl
      exact hb (List.eq_nil_of_length_eq_zero h.symm)
    have hinj : Function.Injective fun n => (⟨n, scale⟩ : Decimal) := fun n m hnm =>
      congrArg Decimal.unscaled hnm
    rw [score?_of_length_eq h hb, score?_of_length_eq h.symm ha, ← h]
    exact (Option.map_injective hinj).eq_iff

end Similarity

namespace Operator

open Similarity

/-- Similarities are the same if the scores are. -/
theorem similarity_apply_eq_iff (left right left' right' : Value) (rounding : Rounding) :
    similarity.apply left right rounding = similarity.apply left' right' rounding ↔
      score? right.text.toList left.text.toList = score? right'.text.toList left'.text.toList := by
  simp only [apply, Operation.resemble]
  cases score? right.text.toList left.text.toList <;>
    cases score? right'.text.toList left'.text.toList <;> simp

/-- The order of the operands makes no difference to a similarity if their texts have
    different lengths. If they have one length, it makes none exactly where the characters
    that are found of the first in the second and of the second in the first have the same
    share, which is to say, unless the texts are very long, where they are equally many. -/
theorem apply_similarity (left right : Value) (rounding : Rounding) :
    (left.text.toList.length ≠ right.text.toList.length →
      similarity.apply left right rounding = similarity.apply right left rounding) ∧
    (left.text.toList.length = right.text.toList.length →
      (similarity.apply left right rounding = similarity.apply right left rounding ↔
        share? (found left.text.toList right.text.toList) left.text.toList.length =
          share? (found right.text.toList left.text.toList) left.text.toList.length) ∧
      (left.text.toList.length ≤ Decimal.powerOfTen scale →
        (similarity.apply left right rounding = similarity.apply right left rounding ↔
          found left.text.toList right.text.toList =
            found right.text.toList left.text.toList))) := by
  have happly : similarity.apply left right rounding = similarity.apply right left rounding ↔
      score? left.text.toList right.text.toList = score? right.text.toList left.text.toList := by
    rw [similarity_apply_eq_iff]
    exact eq_comm
  rw [happly]
  refine ⟨score?_comm, fun h => ⟨score?_comm_iff h, fun hlength => ?_⟩⟩
  by_cases hempty : left.text.toList.length = 0
  · -- Nothing is found in an empty text.
    have hleft := List.eq_nil_of_length_eq_zero hempty
    have hright := List.eq_nil_of_length_eq_zero (h.symm.trans hempty)
    rw [hleft, hright]
    simp only
  · -- Such texts are short enough to be counted, and different counts give different shares.
    have hlimit : left.text.toList.length ≤ countLimit := hlength.trans (by decide)
    have hfirst := (found_le left.text.toList right.text.toList).trans hlimit
    have hsecond := (found_le right.text.toList left.text.toList).trans (h ▸ hlimit)
    rw [score?_comm_iff h, share?, share?, if_neg (Nat.not_lt.mpr hfirst),
      if_neg (Nat.not_lt.mpr hsecond), Option.some.injEq, share_inj hempty hlength]

/-- Two texts of one length, for which the order of the operands makes a difference. -/
theorem not_apply_similarity_comm :
    similarity.apply (.str "abc") (.str "cab") .halfDown = .push (.decimal ⟨3333, 4⟩) ∧
      similarity.apply (.str "cab") (.str "abc") .halfDown = .push (.decimal ⟨6667, 4⟩) ∧
      ¬ ∀ a b, score a b = score b a := by
  have hfirst : score ['a', 'b', 'c'] ['c', 'a', 'b'] = ⟨6667, 4⟩ := by decide +kernel
  have hsecond : score ['c', 'a', 'b'] ['a', 'b', 'c'] = ⟨3333, 4⟩ := by decide +kernel
  refine ⟨?_, ?_, fun h => ?_⟩
  · exact congrArg (fun d => Outcome.push (.decimal d)) hsecond
  · exact congrArg (fun d => Outcome.push (.decimal d)) hfirst
  · have hscores := hfirst.symm.trans ((h _ _).trans hsecond)
    exact absurd hscores (by decide)

end Operator

end Reckon
