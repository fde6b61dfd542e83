import Reckon.Operation
import Reckon.Proofs.Exactness
import Reckon.Proofs.Regrouping

/-!
# Equality and Order Do Not See Representations

Equality of values compares an integer with a decimal on one path, two decimals
on another and lists and maps item by item, after number texts outside of them
have become decimals. It is nevertheless nothing but equality of what the values
stand for: `Value.meaning` puts a rational number for every integer and decimal,
at any depth, and two values are the same exactly if their meanings are equal
(`Value.same_iff`). That makes equality an equivalence relation at once.

Order takes a third path, over decimals only. What it compares are the numbers
that its operands denote (`Value.number?`), and these are the numbers that
equality sees. So order and equality fit together as they do for rational
numbers, whichever representations meet, and an operand that denotes no number
is handed back.

## Main definitions

* `Meaning`: What a value stands for.
* `Value.meaning`: The meaning of a value.
* `Value.number?`: The number that an operand of an ordering denotes.

## Theorems

* `Value.same_iff`: Equality of values is equality of meanings.
* `Value.number?_isSome`: The operands that denote numbers are those that can be
  converted to numbers.
* `Operation.equal_equivalence`: Equality of operands is an equivalence.
* `Operation.ordering_of_numbers`, `Operation.onDecimals_of_none`: Orderings.
* `Operator.comparison_coherent`: Equality and order are coherent.
-/

namespace Reckon

/-- What a value stands for, with one form for every number. -/
inductive Meaning where
  | null
  | bool (b : Bool)
  | number (x : ℚ)
  | str (s : String)
  | list (items : List Meaning)
  | map (entries : List (String × Meaning))
  | type (t : TypeName)

namespace Value

mutual

/-- What a value stands for. -/
def meaning : Value → Meaning
  | null => .null
  | bool b => .bool b
  | int n => .number n.toInt
  | decimal d => .number d.toRat
  | str s => .str s
  | list items => .list (itemMeanings items)
  | map entries => .map (entryMeanings entries)
  | type t => .type t

/-- What the items of a list stand for. -/
def itemMeanings : List Value → List Meaning
  | [] => []
  | v :: vs => meaning v :: itemMeanings vs

/-- What the entries of a map stand for, each with its key. -/
def entryMeanings : List (String × Value) → List (String × Meaning)
  | [] => []
  | (k, v) :: es => (k, meaning v) :: entryMeanings es

end

mutual

/-- Values are the same if they stand for the same. -/
theorem same_iff : (a b : Value) → (a.same b = true ↔ a.meaning = b.meaning)
  | null, b => by cases b <;> simp [same, meaning]
  | bool x, b => by cases b <;> simp [same, meaning]
  | int n, b => by cases b <;> simp [same, meaning, Decimal.same_iff, Int64.toInt_inj]
  | decimal d, b => by cases b <;> simp [same, meaning, Decimal.same_iff]
  | str s, b => by cases b <;> simp [same, meaning]
  | list items, b => by
      cases b with
      | list others => simpa [same, meaning] using sameItems_iff items others
      | _ => simp [same, meaning]
  | map entries, b => by
      cases b with
      | map others => simpa [same, meaning] using sameEntries_iff entries others
      | _ => simp [same, meaning]
  | type t, b => by cases b <;> simp [same, meaning]

theorem sameItems_iff :
    (as bs : List Value) → (sameItems as bs = true ↔ itemMeanings as = itemMeanings bs)
  | [], bs => by cases bs <;> simp [sameItems, itemMeanings]
  | a :: as, [] => by simp [sameItems, itemMeanings]
  | a :: as, b :: bs => by simp [sameItems, itemMeanings, same_iff a b, sameItems_iff as bs]

theorem sameEntries_iff :
    (as bs : List (String × Value)) →
      (sameEntries as bs = true ↔ entryMeanings as = entryMeanings bs)
  | [], bs => by cases bs <;> simp [sameEntries, entryMeanings]
  | (j, a) :: as, [] => by simp [sameEntries, entryMeanings]
  | (j, a) :: as, (k, b) :: bs => by
      simp [sameEntries, entryMeanings, same_iff a b, sameEntries_iff as bs, and_assoc]

end

/-- The number that an operand denotes: a number, or a text that spells one. -/
def number? : Value → Option ℚ
  | int n => some n.toInt
  | decimal d => some d.toRat
  | str s => (Decimal.ofNumberText? s.toList).map Decimal.toRat
  | _ => none

/-- The operands that denote numbers are those that can be converted to numbers. -/
theorem number?_isSome (v : Value) : v.number?.isSome = TypeName.number.canConvert v := by
  cases v <;> simp [number?, TypeName.canConvert, TypeName.isInstance, TypeName.admits,
    Decimal.isNumberText]

/-- An operand that denotes a number is seen as a decimal that does. -/
theorem normalize_of_number {v : Value} {x : ℚ} (h : v.number? = some x) :
    ∃ d : Decimal, v.normalize = decimal d ∧ d.toRat = x := by
  cases v with
  | int n => exact ⟨_, rfl, (Decimal.toRat_ofInt _).trans (Option.some.inj h)⟩
  | decimal d => exact ⟨d, rfl, Option.some.inj h⟩
  | str s =>
      obtain ⟨d, hd, hx⟩ := Option.map_eq_some_iff.mp h
      exact ⟨d, by simp only [normalize, hd], hx⟩
  | _ => cases h

/-- A value that stands for a number is seen as a decimal that denotes it. -/
theorem normalize_of_meaning {v : Value} {x : ℚ} (h : v.meaning = .number x) :
    ∃ d : Decimal, v.normalize = decimal d ∧ d.toRat = x := by
  refine normalize_of_number ?_
  cases v with
  | int n => exact congrArg some (Meaning.number.inj h)
  | decimal d => exact congrArg some (Meaning.number.inj h)
  | _ => cases h

/-- An operand that denotes no number is seen as it is. -/
theorem normalize_of_none {v : Value} (h : v.number? = none) (d : Decimal) :
    v.normalize ≠ decimal d := by
  cases v with
  | int n => cases h
  | decimal d => cases h
  | str s =>
      have hs : Decimal.ofNumberText? s.toList = none := Option.map_eq_none_iff.mp h
      simp only [normalize, hs, ne_eq, reduceCtorEq, not_false_eq_true]
  | _ => simp only [normalize, ne_eq, reduceCtorEq, not_false_eq_true]

end Value

namespace Operation

/-- Operands are equal if what `==` sees in them stands for the same. -/
theorem equal_iff (a b : Value) :
    equal a b = true ↔ a.normalize.meaning = b.normalize.meaning :=
  Value.same_iff _ _

/-- Equality of operands is an equivalence relation. -/
theorem equal_equivalence : Equivalence fun a b => equal a b = true := by
  simp only [equal_iff]
  exact ⟨fun _ => rfl, fun h => h.symm, fun h h' => h.trans h'⟩

/-- Operands that denote numbers are equal if the numbers are. -/
theorem equal_of_numbers {a b : Value} {x y : ℚ} (ha : a.number? = some x)
    (hb : b.number? = some y) : equal a b = (cmp x y == .eq) := by
  obtain ⟨c, hc, rfl⟩ := Value.normalize_of_number ha
  obtain ⟨d, hd, rfl⟩ := Value.normalize_of_number hb
  rw [equal, hc, hd, Value.same, Decimal.same, Decimal.compare_eq_cmp]

/-- An operation on numbers is one on the decimals that arithmetic sees. -/
theorem onDecimals_eq {a b : Value} {x y : Decimal} (ha : a.normalize = .decimal x)
    (hb : b.normalize = .decimal y) (operate : Decimal → Decimal → Outcome) :
    onDecimals operate a b = operate x y := by
  simp only [onDecimals, ha, hb]

/-- An ordering holds between operands as it does between the numbers. -/
theorem ordering_of_numbers (holds : Ordering → Bool) {a b : Value} {x y : ℚ}
    (ha : a.number? = some x) (hb : b.number? = some y) :
    ordering holds a b = .push (.bool (holds (cmp x y))) := by
  obtain ⟨c, hc, rfl⟩ := Value.normalize_of_number ha
  obtain ⟨d, hd, rfl⟩ := Value.normalize_of_number hb
  rw [ordering, onDecimals_eq hc hd, Decimal.compare_eq_cmp]

/-- Without two numbers the operands of arithmetic and of an ordering are handed back. -/
theorem onDecimals_of_none (operate : Decimal → Decimal → Outcome) {a b : Value}
    (h : a.number? = none ∨ b.number? = none) :
    onDecimals operate a b = .cast a.normalize b.normalize := by
  unfold onDecimals
  split
  next c d hc hd =>
    rcases h with h | h
    · exact absurd hc (Value.normalize_of_none h c)
    · exact absurd hd (Value.normalize_of_none h d)
  next => rfl

end Operation

namespace Operator

open Operation

/-- A `<` that holds is between two numbers. -/
theorem lt_of_apply {a b : Value} {rounding : Rounding}
    (h : lt.apply a b rounding = .push (.bool true)) :
    ∃ x y, a.number? = some x ∧ b.number? = some y ∧ x < y := by
  rw [apply] at h
  -- An operand that is no number would have made the operator hand over to a cast.
  rcases ha : a.number? with _ | x
  · rw [ordering, onDecimals_of_none _ (.inl ha)] at h
    cases h
  rcases hb : b.number? with _ | y
  · rw [ordering, onDecimals_of_none _ (.inr hb)] at h
    cases h
  rw [ordering_of_numbers _ ha hb, Outcome.push.injEq, Value.bool.injEq, beq_iff_eq,
    cmp_eq_lt_iff] at h
  exact ⟨x, y, rfl, rfl, h⟩

/-- Equality is an equivalence relation with its negation beside it. Between
    operands that denote numbers one order holds, which the four orderings and
    equality agree on; the orderings are transitive, and hand back operands of
    which one denotes no number. -/
theorem comparison_coherent (rounding : Rounding) :
    Equivalence (fun a b => eq.apply a b rounding = .push (.bool true)) ∧
      (∀ a b, ∃ e, eq.apply a b rounding = .push (.bool e) ∧
        notEq.apply a b rounding = .push (.bool !e)) ∧
      (∀ a b, TypeName.number.canConvert a = true → TypeName.number.canConvert b = true →
        ∃ o : Ordering, lt.apply a b rounding = .push (.bool (o == .lt)) ∧
          eq.apply a b rounding = .push (.bool (o == .eq)) ∧
          gt.apply a b rounding = .push (.bool (o == .gt)) ∧
          ltEq.apply a b rounding = .push (.bool !(o == .gt)) ∧
          gtEq.apply a b rounding = .push (.bool !(o == .lt))) ∧
      (∀ a b c, lt.apply a b rounding = .push (.bool true) →
        lt.apply b c rounding = .push (.bool true) →
          lt.apply a c rounding = .push (.bool true)) ∧
      ∀ a b, (TypeName.number.canConvert a && TypeName.number.canConvert b) = false →
        ∀ op ∈ [lt, gt, ltEq, gtEq],
          op.apply a b rounding = .cast a.normalize b.normalize := by
  refine ⟨?equivalence, fun a b => ⟨_, rfl, rfl⟩, ?trichotomy, ?transitive, ?cast⟩
  case equivalence =>
    have h : ∀ a b, eq.apply a b rounding = .push (.bool true) ↔ equal a b = true := fun a b => by
      simp only [apply, Outcome.push.injEq, Value.bool.injEq]
    simpa only [h] using equal_equivalence
  case trichotomy =>
    intro a b ha hb
    -- All five operators look at one ordering of the two numbers.
    obtain ⟨x, hx⟩ := Option.isSome_iff_exists.mp (a.number?_isSome.trans ha)
    obtain ⟨y, hy⟩ := Option.isSome_iff_exists.mp (b.number?_isSome.trans hb)
    have hordering := fun holds => ordering_of_numbers holds hx hy
    have hequal : eq.apply a b rounding = .push (.bool (cmp x y == .eq)) := by
      rw [apply, equal_of_numbers hx hy]
    exact ⟨cmp x y, hordering (· == .lt), hequal, hordering (· == .gt), hordering (· != .gt),
      hordering (· != .lt)⟩
  case transitive =>
    intro a b c hab hbc
    -- The middle value is one number in both comparisons, so the order on numbers decides.
    obtain ⟨x, y, hx, hy, hxy⟩ := lt_of_apply hab
    obtain ⟨y', z, hy', hz, hyz⟩ := lt_of_apply hbc
    cases hy.symm.trans hy'
    rw [apply, ordering_of_numbers _ hx hz, (cmp_eq_lt_iff x z).mpr (hxy.trans hyz)]
    rfl
  case cast =>
    intro a b h op hop
    have hnone : a.number? = none ∨ b.number? = none := by
      rw [← Value.number?_isSome, ← Value.number?_isSome, Bool.and_eq_false_iff] at h
      simpa only [Option.isSome_eq_false_iff, Option.isNone_iff_eq_none] using h
    simp only [List.mem_cons, List.not_mem_nil, or_false] at hop
    rcases hop with rfl | rfl | rfl | rfl <;> rw [apply, ordering, onDecimals_of_none _ hnone]

/-- A number text, an integer and a decimal of negative scale in their order, and
    a text that spells no number. -/
theorem comparison_coherent_mixed :
    TypeName.number.canConvert (.str "-1.50") = true ∧
      TypeName.number.canConvert (.int 2) = true ∧
      (∃ o : Ordering, lt.apply (.str "-1.50") (.int 2) .halfDown = .push (.bool (o == .lt)) ∧
        eq.apply (.str "-1.50") (.int 2) .halfDown = .push (.bool (o == .eq))) ∧
      lt.apply (.str "-1.50") (.int 2) .halfDown = .push (.bool true) ∧
      lt.apply (.int 2) (.decimal ⟨3, -1⟩) .halfDown = .push (.bool true) ∧
      lt.apply (.str "-1.50") (.decimal ⟨3, -1⟩) .halfDown = .push (.bool true) ∧
      (TypeName.number.canConvert (.str "1.") && TypeName.number.canConvert (.int 2)) = false ∧
      gtEq.apply (.str "1.") (.int 2) .halfDown = .cast (.str "1.") (.decimal ⟨2, 0⟩) := by
  obtain ⟨-, -, order, transitive, handed⟩ := comparison_coherent .halfDown
  have hleft : TypeName.number.canConvert (.str "-1.50") = true := by decide
  have hright : TypeName.number.canConvert (.int 2) = true := by decide
  have hnone : (TypeName.number.canConvert (.str "1.") && TypeName.number.canConvert (.int 2)) =
      false := by decide
  have hfirst : lt.apply (.str "-1.50") (.int 2) .halfDown = .push (.bool true) := rfl
  have hsecond : lt.apply (.int 2) (.decimal ⟨3, -1⟩) .halfDown = .push (.bool true) := rfl
  obtain ⟨o, hlt, heq, -⟩ := order _ _ hleft hright
  exact ⟨hleft, hright, ⟨o, hlt, heq⟩, hfirst, hsecond, transitive _ _ _ hfirst hsecond, hnone,
    handed _ _ hnone gtEq (by decide)⟩

end Operator

end Reckon
