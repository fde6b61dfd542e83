import Reckon.Interpret
import Reckon.Proofs.Bitwise

/-!
# Operators Do Not See How a Number Is Represented

The same number comes as an integer, as a decimal of many scales and as a text. An
operator that works on numbers takes one of three routes to its operands: it turns
them into decimals, it cuts bits from them, or it compares them as they are after
number texts have become decimals. None of the routes sees more than the number, so
operands that are equal to `==` can be exchanged (`Operator.apply_congr`): the values
that come out are the same, the operands that are handed back are equal, and what
fails fails in the same way.

Division is the exception. Its quotient depends on the numbers alone, but it refuses
operands whose scales are too far apart to be aligned, and scales are not numbers.
Below a scale of `2 ^ 30` on either side nothing is refused.

The value of an expression inside another is narrowed before it is used. Narrowing
keeps what a value stands for (`Value.meaning_narrow`), so this never changes what the
operators on numbers come to (`Operator.apply_narrow`).

## Main definitions

* `Outcome.Same`: Outcomes that come to the same.
* `Operator.SeesNumbers`: The operators that work on numbers.
* `Value.ScaleBelow`: The number that arithmetic sees has a small scale.
* `Value.Delivered`: What an operand may be by the time that it is used.

## Theorems

* `Value.meaning_normalize`, `Value.meaning_narrow`: What normalizing and narrowing do
  to what a value stands for.
* `Operation.onDecimals_congr`, `Operation.onBits_congr`, `Operation.equal_congr`: The
  three routes.
* `Operator.apply_congr`: Operands that are equal can be exchanged.
* `Operator.apply_narrow`: Operands can be narrowed.
-/

namespace Reckon

open Operation

/-- What stands for the same as the operand that arithmetic sees. -/
def Meaning.normalize : Meaning → Meaning
  | .str s =>
    match Decimal.ofNumberText? s.toList with
    | some d => .number d.toRat
    | none => .str s
  | m => m

namespace Value

theorem meaning_normalize (v : Value) : v.normalize.meaning = v.meaning.normalize := by
  cases v with
  | int n => exact congrArg Meaning.number (Decimal.toRat_ofInt _)
  | str s =>
      rw [normalize, meaning, Meaning.normalize]
      cases Decimal.ofNumberText? s.toList <;> rfl
  | _ => rfl

/-- The number that an operand denotes is what arithmetic sees of it. -/
theorem number?_eq_some_iff {v : Value} {x : ℚ} :
    v.number? = some x ↔ v.normalize.meaning = .number x := by
  constructor
  · intro h
    obtain ⟨d, hd, rfl⟩ := normalize_of_number h
    rw [hd, meaning]
  · intro h
    rcases hnumber : v.number? with _ | y
    · obtain ⟨d, hd, -⟩ := normalize_of_meaning h
      rw [normalize_normalize] at hd
      exact absurd hd (normalize_of_none hnumber d)
    · obtain ⟨d, hd, rfl⟩ := normalize_of_number hnumber
      rw [hd, meaning, Meaning.number.injEq] at h
      rw [h]

/-- Narrowing a value keeps what it stands for. -/
theorem meaning_narrow (v : Value) : v.narrow.meaning = v.meaning := by
  cases v with
  | decimal d =>
      rw [narrow]
      split
      next h =>
        rw [Bool.and_eq_true, fitsWord, Bool.and_eq_true, decide_eq_true_eq, decide_eq_true_eq,
          Int64.toInt_minValue, Int64.toInt_maxValue] at h
        -- Nothing is cut off an integer, by the truncation or by the word.
        have hword : (Int64.ofInt d.truncate).toInt = d.truncate :=
          Int64.toInt_ofInt_of_le h.2.1 (by omega)
        rw [meaning, meaning, hword, Decimal.toRat_of_isInteger h.1]
      next => rfl
  | _ => rfl

end Value

/-- Outcomes that come to the same: the values are the same, the operands that are
    handed back or have to wait are equal, and the failures are one. -/
def Outcome.Same : Outcome → Outcome → Prop
  | .push v, .push w => v.same w = true
  | .replace v, .replace w => v.same w = true
  | .defer l r, .defer l' r' => equal l l' = true ∧ equal r r' = true
  | .cast l r, .cast l' r' => equal l l' = true ∧ equal r r' = true
  | .fail cause, .fail cause' => cause = cause'
  | _, _ => False

/-- The refusal of a division whose operands have scales too far apart. -/
def Outcome.outOfRange : Outcome := .fail (.failure .exponentRange)

theorem Outcome.same_push_decimal {x y : Decimal} (h : x.toRat = y.toRat) :
    (push (.decimal x)).Same (push (.decimal y)) :=
  (Decimal.same_iff x y).mpr h

theorem Outcome.same_push_self (v : Value) : (push v).Same (push v) :=
  (Value.same_iff v v).mpr rfl

namespace Operation

theorem equal_of_meaning {a b : Value} (h : a.meaning = b.meaning) : equal a b = true := by
  rw [equal_iff, Value.meaning_normalize, Value.meaning_normalize, h]

theorem equal_normalize {a b : Value} (h : equal a b = true) :
    equal a.normalize b.normalize = true := by
  rwa [equal_iff, Value.normalize_normalize, Value.normalize_normalize, ← equal_iff]

theorem number?_congr {a b : Value} (h : equal a b = true) : a.number? = b.number? := by
  refine Option.ext fun x => ?_
  rw [Value.number?_eq_some_iff, Value.number?_eq_some_iff, (equal_iff a b).mp h]

section Congruence

variable {a a' b b' : Value} (ha : equal a a' = true) (hb : equal b b' = true)

include ha hb

/-- Equality does not tell equal operands apart. -/
theorem equal_congr : equal a b = equal a' b' := by
  rw [Bool.eq_iff_iff]
  constructor
  · exact fun h =>
      equal_equivalence.trans (equal_equivalence.symm ha) (equal_equivalence.trans h hb)
  · exact fun h =>
      equal_equivalence.trans ha (equal_equivalence.trans h (equal_equivalence.symm hb))

/-- Arithmetic sees decimals of the same numbers in equal operands, or hands both
    pairs back. -/
theorem onDecimals_congr :
    (∃ x y x' y' : Decimal, x.toRat = x'.toRat ∧ y.toRat = y'.toRat ∧
      ∀ operate, onDecimals operate a b = operate x y ∧ onDecimals operate a' b' = operate x' y') ∨
      ∀ operate, (onDecimals operate a b).Same (onDecimals operate a' b') := by
  -- Equal operands denote the same number, or none of them denotes one.
  by_cases h : a.number? = none ∨ b.number? = none
  · have h' : a'.number? = none ∨ b'.number? = none := by
      rwa [← number?_congr ha, ← number?_congr hb]
    refine Or.inr fun operate => ?_
    rw [onDecimals_of_none operate h, onDecimals_of_none operate h']
    exact ⟨equal_normalize ha, equal_normalize hb⟩
  · rw [not_or] at h
    obtain ⟨m, hm⟩ := Option.ne_none_iff_exists'.mp h.1
    obtain ⟨n, hn⟩ := Option.ne_none_iff_exists'.mp h.2
    obtain ⟨x, hx, hxm⟩ := Value.normalize_of_number hm
    obtain ⟨y, hy, hyn⟩ := Value.normalize_of_number hn
    obtain ⟨x', hx', hxm'⟩ := Value.normalize_of_number (number?_congr ha ▸ hm)
    obtain ⟨y', hy', hyn'⟩ := Value.normalize_of_number (number?_congr hb ▸ hn)
    exact Or.inl ⟨x, y, x', y', hxm.trans hxm'.symm, hyn.trans hyn'.symm, fun operate =>
      ⟨onDecimals_eq hx hy operate, onDecimals_eq hx' hy' operate⟩⟩

/-- An operation on decimals that depends on the numbers alone. -/
theorem onDecimals_same {operate : Decimal → Decimal → Outcome}
    (h : ∀ x y x' y' : Decimal, x.toRat = x'.toRat → y.toRat = y'.toRat →
      (operate x y).Same (operate x' y')) :
    (onDecimals operate a b).Same (onDecimals operate a' b') := by
  rcases onDecimals_congr ha hb with ⟨x, y, x', y', hx, hy, hoperate⟩ | hcast
  · rw [(hoperate operate).1, (hoperate operate).2]
    exact h x y x' y' hx hy
  · exact hcast operate

theorem ordering_same (holds : Ordering → Bool) :
    (ordering holds a b).Same (ordering holds a' b') := by
  refine onDecimals_same ha hb fun x y x' y' hx hy => ?_
  rw [Decimal.compare_eq_cmp, Decimal.compare_eq_cmp, hx, hy]
  exact Outcome.same_push_self _

/-- The sum of operands that denote numbers is a decimal that denotes the sum. -/
theorem add_same (hm : a.number?.isSome) (hn : b.number?.isSome) :
    (Operation.add a b).Same (Operation.add a' b') := by
  obtain ⟨m, hm⟩ := Option.isSome_iff_exists.mp hm
  obtain ⟨n, hn⟩ := Option.isSome_iff_exists.mp hn
  have hsum {v w : Value} (hv : v.number? = some m) (hw : w.number? = some n) :
      ∃ d : Decimal, Operation.add v w = .push (.decimal d) ∧ d.toRat = m + n := by
    obtain ⟨x, hx, hxm⟩ := Value.normalize_of_number hv
    obtain ⟨y, hy, hyn⟩ := Value.normalize_of_number hw
    refine ⟨x.add y, by simp only [Operation.add, hx, hy], ?_⟩
    rw [Decimal.toRat_add, hxm, hyn]
  obtain ⟨d, hd, hdsum⟩ := hsum hm hn
  obtain ⟨d', hd', hdsum'⟩ := hsum (number?_congr ha ▸ hm) (number?_congr hb ▸ hn)
  rw [hd, hd']
  exact Outcome.same_push_decimal (hdsum.trans hdsum'.symm)

/-- Equal operands have the same bits. -/
theorem onBits_congr (operate : BitVec 32 → BitVec 32 → BitVec 32) :
    (onBits operate a b).Same (onBits operate a' b') := by
  have hbits {v w : Value} (h : equal v w = true) : v.bits? = w.bits? := by
    rw [Value.bits?_eq, Value.bits?_eq, Value.word?, Value.word?, number?_congr h]
  unfold onBits
  rw [hbits ha, hbits hb]
  split
  · exact Outcome.same_push_self _
  · exact ⟨ha, hb⟩

end Congruence

/-- Remainders depend on the numbers alone. -/
theorem remainder_same {x y x' y' : Decimal} (hx : x.toRat = x'.toRat) (hy : y.toRat = y'.toRat) :
    (remainder x y).Same (remainder x' y') := by
  have hzero : y.isZero = y'.isZero := by
    rw [Bool.eq_iff_iff, Decimal.isZero_iff, Decimal.isZero_iff, hy]
  unfold remainder
  rw [hzero]
  split
  · rfl
  · refine Outcome.same_push_decimal ?_
    rw [Decimal.toRat_rem_eq, Decimal.toRat_rem_eq, hx, hy]

end Operation

/-! ### Division -/

namespace Decimal

/-- There is no quotient, or it is a function of the numbers. -/
theorem divide_cases (a b : Decimal) (mode : Rounding) (hb : b.isZero = false) :
    a.divide b mode = none ∨
      a.divide b mode = some ⟨mode.ofRat (a.toRat / b.toRat * 10 ^ 20), 20⟩ := by
  simp only [divide]
  split
  · exact Or.inl rfl
  · exact Or.inr (congrArg (fun n => some (Decimal.mk n 20)) (quotient_aligned a b mode hb rfl))

theorem divide_ne_none (a b : Decimal) (mode : Rounding)
    (h : (21 + b.scale - a.scale).natAbs ≤ 2 ^ 32 - 1) : a.divide b mode ≠ none := by
  have hlimit : ¬ exponentLimit < (divisionScale + 1 + b.scale - a.scale).natAbs := not_lt.mpr h
  simp only [divide, hlimit, if_false, ne_eq, reduceCtorEq, not_false_eq_true]

end Decimal

/-- Quotients depend on the numbers alone, unless a division is refused. -/
theorem Operation.divide_same (rounding : Rounding) {x y x' y' : Decimal}
    (hx : x.toRat = x'.toRat) (hy : y.toRat = y'.toRat) :
    (divide rounding x y).Same (divide rounding x' y') ∨
      divide rounding x y = .outOfRange ∨ divide rounding x' y' = .outOfRange := by
  have hzero : y.isZero = y'.isZero := by
    rw [Bool.eq_iff_iff, Decimal.isZero_iff, Decimal.isZero_iff, hy]
  unfold divide
  rw [← hzero]
  -- Whether the divisor is zero is seen from its value; the quotient is that of the values,
  -- unless a scale is too far out for either pair.
  cases h : y.isZero with
  | true => exact Or.inl rfl
  | false =>
      rcases x.divide_cases y rounding h with hq | hq
      · exact Or.inr (Or.inl (by simp only [hq, Bool.false_eq_true, if_false, Outcome.outOfRange]))
      rcases x'.divide_cases y' rounding (hzero ▸ h) with hq' | hq'
      · exact Or.inr (Or.inr (by simp only [hq', Bool.false_eq_true, if_false, Outcome.outOfRange]))
      · rw [hq, hq', hx, hy]
        exact Or.inl (Outcome.same_push_self _)

/-- The number that arithmetic sees of a value, if it sees one, has fewer than `limit`
    digits after the point and ends in fewer than `limit` zeros before it. -/
def Value.ScaleBelow (limit : Nat) (v : Value) : Prop :=
  ∀ d, v.normalize = .decimal d → d.scale.natAbs < limit

namespace Operator

/-- The operators that work on numbers only. -/
def numeric : List Operator :=
  [sub, mul, div, mod, eq, notEq, gt, lt, gtEq, ltEq, bitAnd, bitOr, bitXor, shl, ushl, shr, ushr]

/-- An operator works on numbers: one that does so on any operands, or `+` between
    numbers. -/
def SeesNumbers (op : Operator) (a b : Value) : Prop :=
  op ∈ numeric ∨ op = add ∧ a.number?.isSome ∧ b.number?.isSome

/-- A division of operands of small scale is not refused. -/
theorem div_ne_outOfRange {a b : Value} (ha : a.ScaleBelow (2 ^ 30)) (hb : b.ScaleBelow (2 ^ 30))
    (rounding : Rounding) : div.apply a b rounding ≠ .outOfRange := by
  rw [apply]
  -- Operands that are no numbers are handed back; a division by zero fails in its own way.
  by_cases hnone : a.number? = none ∨ b.number? = none
  · rw [onDecimals_of_none _ hnone]
    exact Outcome.noConfusion
  · rw [not_or] at hnone
    obtain ⟨m, hm⟩ := Option.ne_none_iff_exists'.mp hnone.1
    obtain ⟨n, hn⟩ := Option.ne_none_iff_exists'.mp hnone.2
    obtain ⟨x, hx, -⟩ := Value.normalize_of_number hm
    obtain ⟨y, hy, -⟩ := Value.normalize_of_number hn
    have hxs := ha x hx
    have hys := hb y hy
    obtain ⟨q, hq⟩ := Option.ne_none_iff_exists'.mp (x.divide_ne_none y rounding (by omega))
    rw [onDecimals_eq hx hy, divide, hq, Outcome.outOfRange]
    cases y.isZero with
    | true => simp only [if_true, ne_eq, Outcome.fail.injEq, Cause.failure.injEq, reduceCtorEq,
        not_false_eq_true]
    | false => simp only [Bool.false_eq_true, if_false, ne_eq, reduceCtorEq, not_false_eq_true]

section Congruence

variable {op : Operator} {a a' b b' : Value} (ha : equal a a' = true) (hb : equal b b' = true)
  (rounding : Rounding)

include ha hb

/-- Operands that are equal to `==` can be exchanged where nothing is divided. -/
theorem apply_same (hop : op.SeesNumbers a b) (hdiv : op ≠ div) :
    (op.apply a b rounding).Same (op.apply a' b' rounding) := by
  rcases hop with hop | ⟨rfl, hm, hn⟩
  · simp only [numeric, List.mem_cons, List.not_mem_nil, or_false, hdiv, false_or] at hop
    rcases hop with rfl | rfl | rfl | rfl | rfl | rfl | rfl | rfl | rfl | hbits
    -- The results of arithmetic can have different scales, but denote the same number.
    · refine onDecimals_same ha hb fun x y x' y' hx hy => Outcome.same_push_decimal ?_
      rw [Decimal.toRat_sub, Decimal.toRat_sub, hx, hy]
    · refine onDecimals_same ha hb fun x y x' y' hx hy => Outcome.same_push_decimal ?_
      rw [Decimal.toRat_mul, Decimal.toRat_mul, hx, hy]
    · exact onDecimals_same ha hb fun x y x' y' hx hy => remainder_same hx hy
    -- Comparisons come to the same boolean.
    · rw [apply, apply, equal_congr ha hb]
      exact Outcome.same_push_self _
    · rw [apply, apply, equal_congr ha hb]
      exact Outcome.same_push_self _
    · exact ordering_same ha hb (· == .gt)
    · exact ordering_same ha hb (· == .lt)
    · exact ordering_same ha hb (· != .lt)
    · exact ordering_same ha hb (· != .gt)
    -- The bits are cut from the numbers.
    · rcases hbits with rfl | rfl | rfl | rfl | rfl | rfl | rfl <;> exact onBits_congr ha hb _
  · exact add_same ha hb hm hn

/-- Operands that are equal to `==` can be exchanged, unless a division is refused. -/
theorem apply_congr (hop : op.SeesNumbers a b) :
    (op.apply a b rounding).Same (op.apply a' b' rounding) ∨
      op = div ∧ (op.apply a b rounding = .outOfRange ∨ op.apply a' b' rounding = .outOfRange) := by
  by_cases hdiv : op = div
  · subst hdiv
    rcases onDecimals_congr ha hb with ⟨x, y, x', y', hx, hy, hoperate⟩ | hcast
    · rw [apply, apply, (hoperate _).1, (hoperate _).2]
      exact (divide_same rounding hx hy).imp_right fun h => ⟨rfl, h⟩
    · exact Or.inl (hcast _)
  · exact Or.inl (apply_same ha hb rounding hop hdiv)

end Congruence

end Operator

/-! ### Narrowing -/

namespace Value

/-- What an operand may be by the time that an operator takes it: what it was, what is
    left of it where it is the value of a group, or a list of what is left of the values
    of its elements. -/
inductive Delivered (config : Config) : Value → Value → Prop
  | itself (v : Value) : Delivered config v v
  | group (v : Value) : Delivered config v (config.coerceNested v)
  | elements (vs : List Value) : Delivered config (list vs) (list (vs.map config.coerceNested))

theorem meaning_coerceNested (config : Config) (v : Value) :
    (config.coerceNested v).meaning = v.meaning := by
  unfold Config.coerceNested
  split
  · rfl
  · exact v.meaning_narrow

theorem itemMeanings_map {f : Value → Value} (hf : ∀ v, (f v).meaning = v.meaning)
    (vs : List Value) : itemMeanings (vs.map f) = itemMeanings vs := by
  induction vs with
  | nil => rfl
  | cons v vs ih => rw [List.map_cons, itemMeanings, itemMeanings, hf, ih]

theorem Delivered.meaning_eq {config : Config} {v w : Value} (h : Delivered config v w) :
    w.meaning = v.meaning := by
  cases h with
  | itself => rfl
  | group => exact meaning_coerceNested config v
  | elements vs =>
      rw [meaning, meaning, itemMeanings_map (meaning_coerceNested config)]

theorem ScaleBelow.narrow {limit : Nat} {v : Value} (h : v.ScaleBelow limit) :
    v.narrow.ScaleBelow limit := by
  cases v with
  | decimal d =>
      have hd := h d rfl
      rw [Value.narrow]
      split
      · rintro _ ⟨⟩
        exact Nat.zero_lt_of_lt hd
      · exact h
  | _ => exact h

theorem Delivered.scaleBelow {config : Config} {limit : Nat} {v w : Value}
    (h : Delivered config v w) (hv : v.ScaleBelow limit) : w.ScaleBelow limit := by
  cases h with
  | itself => exact hv
  | group =>
      unfold Config.coerceNested
      split
      · exact hv
      · exact hv.narrow
  | elements vs => nofun

end Value

namespace Operator

/-- Operands can be exchanged for others that stand for the same, and division allows it
    if all their scales are small. -/
theorem apply_same_of_meaning {op : Operator} {a a' b b' : Value} (hop : op.SeesNumbers a b)
    (ha : a'.meaning = a.meaning) (hb : b'.meaning = b.meaning)
    (hscale : op = div → a.ScaleBelow (2 ^ 30) ∧ b.ScaleBelow (2 ^ 30))
    (hscale' : op = div → a'.ScaleBelow (2 ^ 30) ∧ b'.ScaleBelow (2 ^ 30)) (rounding : Rounding) :
    (op.apply a b rounding).Same (op.apply a' b' rounding) := by
  rcases apply_congr (equal_of_meaning ha.symm) (equal_of_meaning hb.symm) rounding hop with
    hsame | ⟨hdiv, h⟩
  · exact hsame
  · obtain ⟨has, hbs⟩ := hscale hdiv
    obtain ⟨has', hbs'⟩ := hscale' hdiv
    subst hdiv
    rcases h with h | h
    · exact absurd h (div_ne_outOfRange has hbs rounding)
    · exact absurd h (div_ne_outOfRange has' hbs' rounding)

/-- An operator on numbers comes to the same on operands and on what narrowing leaves of
    them, whether both are narrowed or one of them is the value of a group, a list with
    the values of its elements, or left as it is. Scales have to be small for division
    only. -/
theorem apply_narrow {op : Operator} {a b : Value} (hop : op.SeesNumbers a b)
    (hscale : op = div → a.ScaleBelow (2 ^ 30) ∧ b.ScaleBelow (2 ^ 30)) (rounding : Rounding) :
    (op.apply a b rounding).Same (op.apply a.narrow b.narrow rounding) ∧
      ∀ config a' b', Value.Delivered config a a' → Value.Delivered config b b' →
        (op.apply a b rounding).Same (op.apply a' b' rounding) := by
  constructor
  · refine apply_same_of_meaning hop a.meaning_narrow b.meaning_narrow hscale (fun hdiv => ?_)
      rounding
    exact (hscale hdiv).imp (·.narrow) (·.narrow)
  · intro config a' b' ha' hb'
    refine apply_same_of_meaning hop ha'.meaning_eq hb'.meaning_eq hscale (fun hdiv => ?_) rounding
    exact (hscale hdiv).imp ha'.scaleBelow hb'.scaleBelow

/-- A quotient of two decimals, of which one has digits after the point and the other
    zeros before it. -/
theorem apply_narrow_quotient :
    div.SeesNumbers (.decimal ⟨-700, 2⟩) (.decimal ⟨3, -1⟩) ∧
      (Value.decimal ⟨-700, 2⟩).ScaleBelow (2 ^ 30) ∧
      (Value.decimal ⟨3, -1⟩).ScaleBelow (2 ^ 30) ∧
      (div.apply (.decimal ⟨-700, 2⟩) (.decimal ⟨3, -1⟩) .halfEven).Same
        (div.apply (.int (-7)) (.int 30) .halfEven) ∧
      (div.apply (.decimal ⟨-700, 2⟩) (.decimal ⟨3, -1⟩) .halfEven).Same
        (div.apply (.int (-7)) (.decimal ⟨3, -1⟩) .halfEven) := by
  have hop : div.SeesNumbers (.decimal ⟨-700, 2⟩) (.decimal ⟨3, -1⟩) := Or.inl (by decide)
  have hleft : (Value.decimal ⟨-700, 2⟩).ScaleBelow (2 ^ 30) := by
    rintro _ ⟨⟩
    decide
  have hright : (Value.decimal ⟨3, -1⟩).ScaleBelow (2 ^ 30) := by
    rintro _ ⟨⟩
    decide
  obtain ⟨hboth, hdelivered⟩ := apply_narrow hop (fun _ => ⟨hleft, hright⟩) .halfEven
  exact ⟨hop, hleft, hright, hboth, hdelivered {} _ _ (.group _) (.itself _)⟩

end Operator

end Reckon
