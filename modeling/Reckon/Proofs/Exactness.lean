import Mathlib.Data.Int.Cast.Lemmas
import Mathlib.Order.Compare
import Reckon.Proofs.Division
import Reckon.Value.Coercion

/-!
# Decimals Are the Numbers They Denote

A decimal is seen by a program as digits and a scale, but arithmetic and order
are those of the number denoted: `Decimal.toRat` carries sums, differences,
products and the order of decimals to those of rational numbers, whatever the
scales are. What an operation does to the scale (a zero that widens, a one that
shortens) leaves the number as it is.

Truncation and remainders are a matter of integers, but of numbers all the same.
A quotient of integers toward zero is their quotient rounded toward zero
(`Rounding.tdiv_eq_ofRat`), and on a common scale the quotient of the unscaled
integers is the quotient of the numbers. So the integer part of a decimal is its
number rounded toward zero (`Decimal.truncate_eq_ofRat`), and a remainder is what
is left of the dividend without that many divisors (`Decimal.toRat_rem_eq`).

## Theorems

* `Rounding.tdiv_eq_ofRat`: Division of integers toward zero.
* `Decimal.toRat_add`, `Decimal.toRat_sub`, `Decimal.toRat_mul`: Arithmetic is
  exact.
* `Decimal.toRat_rem_eq`, `Decimal.toRat_rem`: So is the remainder, and of whole
  decimals it is the remainder of integers.
* `Decimal.compare_eq_cmp`, `Decimal.same_iff`: Decimals are ordered as numbers.
* `Decimal.truncate_eq_ofRat`: Truncation.
* `Decimal.isInteger_of_toRat`, `Decimal.toRat_of_isInteger`: The decimals that
  denote integers.
* `Value.narrow_decimal`: Narrowing a decimal that denotes an integer.
-/

namespace Reckon

namespace Rounding

theorem ofRat_down_neg (x : ℚ) : down.ofRat (-x) = -down.ofRat x :=
  ofRat_neg .down x

theorem ofRat_down_natCast_div (m n : ℕ) : down.ofRat ((m : ℚ) / n) = (m : ℤ) / n := by
  have hpos : 0 ≤ (m : ℚ) / n := by positivity
  simp only [ofRat, hpos, if_true]
  exact Rat.floor_natCast_div_natCast m n

/-- Division of integers toward zero is their quotient, rounded toward zero. -/
theorem tdiv_eq_ofRat (num den : ℤ) : num.tdiv den = down.ofRat (num / den) := by
  -- a change of sign on either side changes the sign of both
  rcases num.eq_nat_or_neg with ⟨m, rfl | rfl⟩ <;> rcases den.eq_nat_or_neg with ⟨n, rfl | rfl⟩
  all_goals
    simp only [Int.neg_tdiv, Int.tdiv_neg, Int.natCast_tdiv_eq_ediv, Int.cast_neg, Int.cast_natCast,
      neg_div, div_neg, ofRat_down_neg, ofRat_down_natCast_div]

theorem ofRat_down_intCast (n : ℤ) : down.ofRat n = n := by
  simpa using (tdiv_eq_ofRat n 1).symm

end Rounding

namespace Decimal

theorem ten_zpow_pos (s : ℤ) : (0 : ℚ) < 10 ^ s := zpow_pos (by norm_num) s

/-- A power of ten is the factor between two scales. -/
theorem powerOfTen_of_le {s t : ℤ} (h : s ≤ t) :
    (powerOfTen (t - s).toNat : ℚ) = 10 ^ t / 10 ^ s := by
  rw [cast_powerOfTen, ← zpow_natCast, ← zpow_sub₀ (by norm_num)]
  congr 1
  omega

@[simp] theorem toRat_ofInt (n : ℤ) : (ofInt n).toRat = n := by
  simp [ofInt, toRat]

/-- A number on a larger scale. -/
theorem toRat_mk_unscaledAt {d : Decimal} {s : ℤ} (h : d.scale ≤ s) :
    (⟨d.unscaledAt s, s⟩ : Decimal).toRat = d.toRat := by
  have hs := (ten_zpow_pos s).ne'
  simp only [toRat, unscaledAt, Int.cast_mul, Int.cast_natCast, powerOfTen_of_le h]
  field_simp

theorem unscaledAt_eq {d : Decimal} {s : ℤ} (h : d.scale ≤ s) :
    (d.unscaledAt s : ℚ) = d.toRat * 10 ^ s := by
  rw [← toRat_mk_unscaledAt h, toRat, div_mul_cancel₀ _ (ten_zpow_pos s).ne']

theorem isZero_iff (d : Decimal) : d.isZero = true ↔ d.toRat = 0 := by
  rw [isZero, beq_iff_eq, toRat, div_eq_zero_iff, Int.cast_eq_zero,
    or_iff_left (ten_zpow_pos d.scale).ne']

@[simp] theorem toRat_widen (d : Decimal) (digits : Nat) : (d.widen digits).toRat = d.toRat := by
  have h := toRat_mk_unscaledAt (d := d) (s := d.scale + digits) (by omega)
  rwa [unscaledAt, add_sub_cancel_left, Int.toNat_natCast] at h

/-- Sums are exact. -/
theorem toRat_add (a b : Decimal) : (a.add b).toRat = a.toRat + b.toRat := by
  unfold add
  split
  next hb => rw [addZero, toRat_widen, (isZero_iff b).mp hb, add_zero]
  next =>
    split
    next ha => rw [addZero, toRat_widen, (isZero_iff a).mp ha, zero_add]
    next =>
      rw [← toRat_mk_unscaledAt (le_max_left a.scale b.scale),
        ← toRat_mk_unscaledAt (le_max_right a.scale b.scale)]
      simp only [toRat, Int.cast_add, add_div]

/-- Differences are exact. -/
theorem toRat_sub (a b : Decimal) : (a.sub b).toRat = a.toRat - b.toRat := by
  rw [← toRat_mk_unscaledAt (le_max_left a.scale b.scale),
    ← toRat_mk_unscaledAt (le_max_right a.scale b.scale)]
  simp only [sub, toRat, Int.cast_sub, sub_div]

theorem powerOfTen_trailingZeros_dvd (n : Nat) : powerOfTen (trailingZeros n) ∣ n := by
  induction n using trailingZeros.induct with
  | case1 n h ih =>
      rw [trailingZeros, dif_pos h, powerOfTen_succ]
      have hdvd := Nat.mul_dvd_mul_right ih 10
      rwa [Nat.div_mul_cancel (Nat.dvd_of_mod_eq_zero h.2)] at hdvd
  | case2 n h =>
      rw [trailingZeros, dif_neg h]
      exact one_dvd n

/-- The shortest form of a decimal denotes the same number. -/
@[simp] theorem toRat_shortest (d : Decimal) : d.shortest.toRat = d.toRat := by
  unfold shortest
  split
  next h =>
    rw [(isZero_iff d).mp h]
    simp [toRat]
  next =>
    obtain ⟨k, hk⟩ : ∃ k, k = trailingZeros d.unscaled.natAbs := ⟨_, rfl⟩
    have hdvd : (powerOfTen k : ℤ) ∣ d.unscaled :=
      Int.natCast_dvd.mpr (hk ▸ powerOfTen_trailingZeros_dvd _)
    -- The zeros taken off the number are added to its scale.
    obtain ⟨m, hm⟩ := hdvd
    have hpos : (powerOfTen k : ℤ) ≠ 0 := Int.natCast_ne_zero.mpr (powerOfTen_pos k).ne'
    rw [← hk]
    simp only [toRat, hm, Int.mul_tdiv_cancel_left m hpos, Int.cast_mul, Int.cast_natCast,
      zpow_sub₀ (by norm_num : (10 : ℚ) ≠ 0), cast_powerOfTen, zpow_natCast]
    field_simp

theorem toRat_of_isUnit {d : Decimal} (h : d.isUnit = true) : d.toRat = 1 := by
  simp only [isUnit, Bool.and_eq_true, decide_eq_true_eq, beq_iff_eq] at h
  obtain ⟨⟨hlow, -⟩, hunscaled⟩ := h
  rw [toRat, hunscaled, Int.cast_natCast, cast_powerOfTen, ← zpow_natCast,
    Int.toNat_of_nonneg hlow, div_self (ten_zpow_pos _).ne']

/-- Products are exact. -/
theorem toRat_mul (a b : Decimal) : (a.mul b).toRat = a.toRat * b.toRat := by
  unfold mul
  split
  next ha => rw [toRat_shortest, toRat_of_isUnit ha, one_mul]
  next =>
    split
    next hb => rw [toRat_shortest, toRat_of_isUnit hb, mul_one]
    next =>
      simp only [toRat, Int.cast_mul, zpow_add₀ (by norm_num : (10 : ℚ) ≠ 0), mul_div_mul_comm]

/-- A remainder is what is left of the dividend without the truncated quotient of
    divisors. -/
theorem toRat_rem_eq (a b : Decimal) :
    (a.rem b).toRat = a.toRat - b.toRat * Rounding.down.ofRat (a.toRat / b.toRat) := by
  obtain ⟨s, hs⟩ : ∃ s, s = max a.scale b.scale := ⟨_, rfl⟩
  have hpos := (ten_zpow_pos s).ne'
  have hleft := unscaledAt_eq (hs ▸ le_max_left a.scale b.scale)
  have hright := unscaledAt_eq (hs ▸ le_max_right a.scale b.scale)
  -- the unscaled integers have the quotient of the numbers, since they share the scale
  have hquotient : (a.unscaledAt s).tdiv (b.unscaledAt s) =
      Rounding.down.ofRat (a.toRat / b.toRat) := by
    rw [Rounding.tdiv_eq_ofRat, hleft, hright, mul_div_mul_right _ _ hpos]
  rw [rem, ← hs, toRat, Int.tmod_def, hquotient]
  push_cast
  rw [hleft, hright]
  field_simp

/-- The remainder of two decimals that denote integers is the remainder of the
    integers. -/
theorem toRat_rem {a b : Decimal} {m n : ℤ} (ha : a.toRat = m) (hb : b.toRat = n) :
    (a.rem b).toRat = (m.tmod n : ℤ) := by
  rw [toRat_rem_eq, ha, hb, ← Rounding.tdiv_eq_ofRat, Int.tmod_def]
  push_cast
  rfl

/-! ### Order -/

/-- Decimals are ordered as the numbers they denote. -/
theorem compare_eq_cmp (a b : Decimal) : a.compare b = cmp a.toRat b.toRat := by
  have hpos := ten_zpow_pos (max a.scale b.scale)
  have hmono : StrictMono fun z : ℤ => (z : ℚ) / 10 ^ max a.scale b.scale := fun x y h =>
    div_lt_div_of_pos_right (Int.cast_lt.mpr h) hpos
  rw [← toRat_mk_unscaledAt (le_max_left a.scale b.scale),
    ← toRat_mk_unscaledAt (le_max_right a.scale b.scale)]
  exact (cmp_eq_compare _ _).symm.trans (hmono.cmp_map_eq _ _).symm

/-- Decimals are the same if they denote the same number. -/
theorem same_iff (a b : Decimal) : a.same b = true ↔ a.toRat = b.toRat := by
  rw [same, beq_iff_eq, compare_eq_cmp, cmp_eq_eq_iff]

/-! ### Integers -/

theorem powerOfTen_toNat {s : ℤ} (h : 0 ≤ s) : (powerOfTen s.toNat : ℚ) = 10 ^ s := by
  simpa using powerOfTen_of_le h

theorem toRat_of_scale_le {d : Decimal} (h : d.scale ≤ 0) : d.toRat = (d.unscaledAt 0 : ℤ) := by
  simpa using (unscaledAt_eq h).symm

/-- A decimal is truncated by rounding its number toward zero. -/
theorem truncate_eq_ofRat (d : Decimal) : d.truncate = Rounding.down.ofRat d.toRat := by
  unfold truncate
  split
  next h => rw [toRat_of_scale_le h, Rounding.ofRat_down_intCast]
  next h => rw [Rounding.tdiv_eq_ofRat, Int.cast_natCast, powerOfTen_toNat (by omega), toRat]

theorem truncate_of_toRat {d : Decimal} {n : ℤ} (h : d.toRat = n) : d.truncate = n := by
  rw [truncate_eq_ofRat, h, Rounding.ofRat_down_intCast]

/-- An integer that is written with digits after the point: they are zeros. -/
theorem unscaled_of_toRat {d : Decimal} {n : ℤ} (h : d.toRat = n) (hs : 0 < d.scale) :
    d.unscaled = powerOfTen d.scale.toNat * n := by
  have hmul : (d.unscaled : ℚ) = powerOfTen d.scale.toNat * n := by
    rw [powerOfTen_toNat hs.le, ← h, toRat, mul_div_cancel₀ _ (ten_zpow_pos _).ne']
  exact_mod_cast hmul

theorem isInteger_of_toRat {d : Decimal} {n : ℤ} (h : d.toRat = n) : d.isInteger = true := by
  rw [isInteger, Bool.or_eq_true, decide_eq_true_eq, beq_iff_eq]
  refine (le_or_gt d.scale 0).imp_right fun hscale => ?_
  rw [unscaled_of_toRat h hscale, Int.mul_emod_right]

theorem toRat_of_isInteger {d : Decimal} (h : d.isInteger = true) : d.toRat = d.truncate := by
  rw [isInteger, Bool.or_eq_true, decide_eq_true_eq, beq_iff_eq] at h
  by_cases hscale : d.scale ≤ 0
  · rw [truncate, if_pos hscale, toRat_of_scale_le hscale]
  · obtain ⟨n, hn⟩ := Int.dvd_of_emod_eq_zero (h.resolve_left hscale)
    have hd : d.toRat = n := by
      rw [toRat, hn, Int.cast_mul, Int.cast_natCast, powerOfTen_toNat (by omega),
        mul_div_cancel_left₀ _ (ten_zpow_pos _).ne']
    rw [truncate_of_toRat hd, hd]

end Decimal

/-- A decimal that denotes an integer is narrowed exactly if the integer is in the
    range of a word. -/
theorem Value.narrow_decimal {d : Decimal} {n : ℤ} (h : d.toRat = n) :
    narrow (decimal d) = if fitsWord n then int (Int64.ofInt n) else decimal d := by
  rw [narrow, Decimal.isInteger_of_toRat h, Decimal.truncate_of_toRat h, Bool.true_and]

end Reckon
