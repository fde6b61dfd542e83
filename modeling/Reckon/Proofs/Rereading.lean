import Reckon.Proofs.Numeral
import Reckon.Proofs.Representation

/-!
# Numbers Fed Back as Text

A number can leave the program as text and come back as text. It is shown in plain
notation, and plain notation is what the operators read as a number, so the text denotes
the number that was shown.

A decimal of scale zero or more is shown with all its places and comes back as it was.
A negative scale stands for zeros in front of the point. They are written out, and what
is read is the same number without places (`Decimal.ofNumberText?_digits_of_nonpos`).

Either way the text is equal to the number, and the operators on numbers do not tell
equal operands apart (`Value.apply_reread`). Division alone can find a negative scale too
far from that of the other operand, where it accepts the text, or the other way round.

## Main definitions

* `Numeral.ofWhole`: How a magnitude is written with zeros behind it.
* `Outcome.SameUnless`: Outcomes that come to the same, unless one is a refusal that is
  allowed for.

## Theorems

* `Decimal.ofNumberText?_digits_of_nonpos`: How a decimal without places is read back.
* `Decimal.exists_ofNumberText?_digits`: Any decimal is read back as the same number.
* `Value.apply_reread`: A number can be exchanged for what it is shown as.
-/

namespace Reckon

namespace Numeral

/-- How a magnitude is written with zeros behind it. -/
def ofWhole (magnitude zeros : Nat) : Numeral where
  whole := Decimal.natDigits magnitude ++ List.replicate zeros '0'
  places := []
  whole_ne hnil := by
    have hpos : 0 < (Decimal.natDigits magnitude).length := Nat.length_toDigits_pos
    rw [(List.append_eq_nil_iff.mp hnil).1] at hpos
    exact absurd hpos (Nat.lt_irrefl 0)
  isDigit_whole c hc := by
    rcases List.mem_append.mp hc with hc | hc
    · exact Nat.isDigit_of_mem_toDigits (by decide) (by decide) hc
    · rw [(List.mem_replicate.mp hc).2]
      rfl
  isDigit_places := List.forall_mem_nil _

theorem magnitude_ofWhole (magnitude zeros : Nat) :
    (ofWhole magnitude zeros).magnitude = magnitude * Decimal.powerOfTen zeros := by
  have hpower : Decimal.powerOfTen zeros = 10 ^ zeros := rfl
  unfold Numeral.magnitude ofWhole Decimal.ofDigits Decimal.natDigits
  rw [List.append_nil, Nat.ofDigitChars_append, Nat.ofDigitChars_ten_toDigits,
    Nat.ofDigitChars_replicate_zero, hpower, Nat.mul_comm]

end Numeral

namespace Decimal

/-- A decimal without places is shown as a numeral. -/
theorem digits_of_nonpos {d : Decimal} (h : d.scale ≤ 0) :
    d.digits = if decide (d.unscaled < 0) then
        '-' :: (Numeral.ofWhole d.unscaled.natAbs (-d.scale).toNat).chars
      else (Numeral.ofWhole d.unscaled.natAbs (-d.scale).toNat).chars := by
  unfold digits
  simp only [if_pos h, decide_eq_true_eq]
  rfl

/-- A decimal without places is read back with scale zero. -/
theorem ofNumberText?_digits_of_nonpos {d : Decimal} (h : d.scale ≤ 0) :
    ofNumberText? d.digits = some ⟨d.unscaledAt 0, 0⟩ := by
  rw [digits_of_nonpos h, Numeral.ofNumberText?_chars, Numeral.magnitude_ofWhole, unscaledAt,
    Int.zero_sub]
  -- The sign belongs to the digits, not to the zeros behind them.
  have hsign : (if d.unscaled < 0 then -(d.unscaled.natAbs : ℤ) else d.unscaled.natAbs) =
      d.unscaled := by
    split <;> omega
  simp only [decide_eq_true_eq, Nat.cast_mul, ← Int.neg_mul, ← ite_mul, hsign]
  rfl

/-- A decimal is read back as a decimal that denotes the same number, and with its scale
    unless that was negative. -/
theorem exists_ofNumberText?_digits (d : Decimal) :
    ∃ e, ofNumberText? d.digits = some e ∧ e.toRat = d.toRat ∧ (0 ≤ d.scale → e = d) := by
  rcases Int.le_total 0 d.scale with hplaces | hzeros
  · exact ⟨d, ofNumberText?_digits d hplaces, rfl, fun _ => rfl⟩
  · refine ⟨⟨d.unscaledAt 0, 0⟩, ofNumberText?_digits_of_nonpos hzeros, toRat_mk_unscaledAt hzeros,
      fun hplaces => ?_⟩
    obtain ⟨unscaled, scale⟩ := d
    obtain rfl : scale = 0 := Int.le_antisymm hzeros hplaces
    rw [unscaledAt, Int.sub_self, Int.toNat_zero, powerOfTen_zero, Nat.cast_one, Int.mul_one]

end Decimal

/-- Outcomes that come to the same, unless operands are refused where that is allowed
    for. -/
def Outcome.SameUnless (allowed : Prop) (o o' : Outcome) : Prop :=
  o.Same o' ∨ allowed ∧ (o = .outOfRange ∨ o' = .outOfRange)

open Operation in
/-- Operands that are equal to `==` can be exchanged. A refusal has to be allowed for where
    arithmetic does not see the same decimals in them. -/
theorem Operator.apply_exchange {op : Operator} {a a' b b' : Value} {allowed : Prop}
    (ha : equal a a' = true) (hb : equal b b' = true) (hop : op.SeesNumbers a b)
    (halike : ¬ allowed → a.normalize = a'.normalize ∧ b.normalize = b'.normalize)
    (rounding : Rounding) :
    (op.apply a b rounding).SameUnless (op = div ∧ allowed) (op.apply a' b' rounding) := by
  rcases apply_congr ha hb rounding hop with hsame | ⟨rfl, hrefused⟩
  · exact Or.inl hsame
  by_cases hallowed : allowed
  · exact Or.inr ⟨⟨rfl, hallowed⟩, hrefused⟩
  · -- The division is one and the same, so it is refused for both pairs.
    have hdiv : div.apply a b rounding = div.apply a' b' rounding := by
      obtain ⟨hl, hr⟩ := halike hallowed
      simp only [apply, onDecimals, hl, hr]
    rw [hdiv, or_self] at hrefused
    rw [hdiv, hrefused]
    exact Or.inl rfl

namespace Value

/-- Numbers are shown as the decimals that arithmetic sees of them. -/
theorem text_of_isInstance {v : Value} (h : TypeName.number.isInstance v = true) :
    ∃ c, v.normalize = decimal c ∧ v.text = c.text := by
  cases v with
  | int n => exact ⟨_, rfl, rfl⟩
  | decimal d => exact ⟨d, rfl, rfl⟩
  | _ => cases h

theorem normalize_text {v : Value} {c d : Decimal} (h : v.text = c.text)
    (hd : Decimal.ofNumberText? c.digits = some d) : (str v.text).normalize = decimal d := by
  rw [h, normalize, Decimal.text, String.toList_ofList, hd]

open Operation in
/-- What a number is shown as is a number text. It is read as the same number, with the
    same scale unless that was negative. On either side of another operand it comes to
    the same as the number with every operator on numbers, unless the number had a
    negative scale and a division is refused. -/
theorem apply_reread {v : Value} (hv : TypeName.number.isInstance v = true) :
    Decimal.isNumberText v.text.toList = true ∧
    ∃ c d : Decimal, v.normalize = decimal c ∧ (str v.text).normalize = decimal d ∧
      d.toRat = c.toRat ∧ (0 ≤ c.scale → d.scale = c.scale) ∧
      ∀ (op : Operator) (w : Value) (rounding : Rounding),
        (op.SeesNumbers v w → (op.apply v w rounding).SameUnless (op = .div ∧ c.scale < 0)
          (op.apply (str v.text) w rounding)) ∧
        (op.SeesNumbers w v → (op.apply w v rounding).SameUnless (op = .div ∧ c.scale < 0)
          (op.apply w (str v.text) rounding)) := by
  obtain ⟨c, hc, htext⟩ := text_of_isInstance hv
  obtain ⟨d, hd, hrat, hscale⟩ := c.exists_ofNumberText?_digits
  have hnormalize := normalize_text htext hd
  refine ⟨?_, c, d, hc, hnormalize, hrat, fun h => congrArg _ (hscale h), fun op w rounding => ?_⟩
  · rw [htext, Decimal.text, String.toList_ofList, Decimal.isNumberText, hd, Option.isSome_some]
  have hequal : equal v (str v.text) = true := by
    rw [equal, hc, hnormalize]
    exact (Decimal.same_iff c d).mpr hrat.symm
  -- With no negative scale the text reads back to the very same decimal.
  have hkept (h : ¬ c.scale < 0) : v.normalize = (str v.text).normalize := by
    rw [hc, hnormalize, hscale (Int.not_lt.mp h)]
  have hself : equal w w = true := equal_equivalence.refl w
  constructor
  · intro hop
    exact Operator.apply_exchange hequal hself hop (fun h => ⟨hkept h, rfl⟩) rounding
  · intro hop
    exact Operator.apply_exchange hself hequal hop (fun h => ⟨rfl, hkept h⟩) rounding

/-- A number with zeros in front of the point, which are written out. -/
theorem apply_reread_zeros :
    TypeName.number.isInstance (decimal ⟨-12, -3⟩) = true ∧
      (decimal ⟨-12, -3⟩).text = "-12000" ∧
      Decimal.isNumberText "-12000".toList = true ∧
      (str "-12000").normalize = decimal ⟨-12000, 0⟩ ∧
      ∀ w rounding, Operator.SeesNumbers .sub (decimal ⟨-12, -3⟩) w →
        (Operator.apply .sub (decimal ⟨-12, -3⟩) w rounding).Same
          (Operator.apply .sub (str "-12000") w rounding) := by
  have hnumber : TypeName.number.isInstance (decimal ⟨-12, -3⟩) = true := rfl
  have htext : (decimal ⟨-12, -3⟩).text = "-12000" := by decide
  obtain ⟨hread, c, d, -, -, -, -, hops⟩ := apply_reread hnumber
  rw [htext] at hread hops
  refine ⟨hnumber, htext, hread, rfl, fun w rounding hop => ?_⟩
  -- Only a division can be refused.
  exact ((hops .sub w rounding).1 hop).resolve_right fun h => nomatch h.1.1

/-- A number so small that it cannot be divided by a number with zeros in front of the
    point. It can be divided by the text of that number, in which they are digits. -/
theorem not_apply_reread_distant :
    TypeName.number.isInstance (decimal ⟨1, -5⟩) = true ∧
      Operator.SeesNumbers .div (decimal ⟨1, 4294967314⟩) (decimal ⟨1, -5⟩) ∧
      ¬ (Operator.apply .div (decimal ⟨1, 4294967314⟩) (decimal ⟨1, -5⟩) .halfDown).Same
        (Operator.apply .div (decimal ⟨1, 4294967314⟩) (str (decimal ⟨1, -5⟩).text) .halfDown) := by
  refine ⟨rfl, Or.inl (by decide), ?_⟩
  have htext : (str (decimal ⟨1, -5⟩).text).normalize = decimal ⟨100000, 0⟩ := rfl
  have hrefused : (Decimal.mk 1 4294967314).divide ⟨1, -5⟩ .halfDown = none := by
    rw [Decimal.divide, if_pos (by decide)]
  obtain ⟨q, hq⟩ := Option.ne_none_iff_exists'.mp
    (Decimal.divide_ne_none ⟨1, 4294967314⟩ ⟨100000, 0⟩ .halfDown (by decide))
  rw [Operator.apply, Operator.apply, Operation.onDecimals_eq rfl rfl,
    Operation.onDecimals_eq rfl htext, Operation.divide, Operation.divide, hrefused, hq]
  exact id

end Value

end Reckon
