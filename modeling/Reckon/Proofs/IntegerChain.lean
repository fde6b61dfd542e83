import Reckon.Proofs.Chain
import Reckon.Proofs.Comparison

/-!
# Integer Arithmetic Is Exact

An integer of a program is a word of 64 bits, but no operator ever sees one. The
operands of `+`, `-`, `*` and `%` are turned into decimals, what comes out is a
decimal again, and only the value of the whole expression is narrowed back. So a
chain of these operators over integers is computed in the integers as they are:
it may leave the range of a word on the way and come back into it, and it comes
to a word exactly if the result is in the range of one
(`Chain.whole_eq_integer`).

The value so far is carried along as its meaning, a number, and not as a decimal:
the first operand is a word, the others are not, and the scale of a decimal is
whatever the operators have made of it. A chain of integers is also free of
operands that an operator hands back, which is what makes it a fold.

## Main definitions

* `Operator.onIntegers`: What the four operators do to integers.
* `Term.int?`: The integer that an operand is.
* `Value.Represents`: What becomes of an integer in the end.
* `Link.OfInteger`, `Chain.OfIntegers`: A chain of the four operators over integers.
* `Chain.integer`: The integer that it comes to, without bounds.

## Theorems

* `Operator.apply_integers`: One operator on two integers.
* `Link.apply_integer`, `Link.foldlM_integers`: One link, and all of them.
* `Value.narrow_represents`: The narrowing at the end.
* `Chain.whole_eq_integer`: The value of a text and of a program.
-/

namespace Reckon

open Eval

/-- What the four operators do to integers. The remainder is that of truncated
    division. -/
def Operator.onIntegers : Operator → ℤ → ℤ → ℤ
  | add => (· + ·)
  | sub => (· - ·)
  | mul => (· * ·)
  | mod => Int.tmod
  | _ => fun _ _ => 0

namespace Term

variable {α : Type}

/-- The integer that an operand is: a literal, or a variable that holds one. -/
def int? (vs : Variables) (x : Term α) : Option Int64 :=
  match x with
  | ⟨.literal (.int n), _, false⟩ => some n
  | ⟨.identifier name, _, false⟩ =>
    match name.toList.contains '.', vs.lookup? name with
    | false, some (.int n) => some n
    | _, _ => none
  | _ => none

/-- The same integer without bounds; zero for an operand that is none. -/
def integer (vs : Variables) (x : Term α) : ℤ :=
  ((x.int? vs).getD 0).toInt

/-- An operand that is an integer comes to it, and changes no variable. -/
theorem value_of_int {x : Term α} {vs : Variables} {n : Int64} (h : x.int? vs = some n)
    (nested : Nested α) (env : Env) (source : String) :
    ∃ vs', (x.value nested env source).outcome vs = (.ok (.int n), vs') ∧
      vs'.lookup? = vs.lookup? := by
  unfold int? at h
  split at h
  next n' _ =>
    cases h
    exact ⟨vs, rfl, rfl⟩
  next name _ =>
    split at h
    next n' hpoint hlookup =>
      cases h
      have hpoint : '.' ∉ name.toList := by
        rwa [← List.contains_iff_mem, Bool.not_eq_true]
      -- Reading a variable may close scopes around it, which no later lookup notices.
      refine ⟨vs.afterRead name, ?_, vs.lookup?_afterRead name⟩
      exact outcome_bind_of_ok _ _ _ _ _ (env.resolve_of_lookup hpoint hlookup)
    next => cases h
  next => cases h

theorem int?_congr (x : Term α) {vs vs' : Variables} (h : vs'.lookup? = vs.lookup?) :
    x.int? vs' = x.int? vs := by
  simp only [int?, h]

end Term

/-- The value of an integer: a word if it is in the range of one, and a decimal
    otherwise. -/
def Value.Represents (v : Value) (n : ℤ) : Prop :=
  if -2 ^ 63 ≤ n ∧ n < 2 ^ 63 then ∃ w : Int64, v = int w ∧ w.toInt = n
  else ∃ d : Decimal, v = decimal d ∧ d.toRat = n

theorem Value.fitsWord_iff (n : ℤ) : fitsWord n = true ↔ -2 ^ 63 ≤ n ∧ n < 2 ^ 63 := by
  rw [fitsWord, Bool.and_eq_true, decide_eq_true_eq, decide_eq_true_eq, Int64.toInt_minValue,
    Int64.toInt_maxValue]
  omega

/-- A value that stands for an integer is narrowed to the value of the integer. -/
theorem Value.narrow_represents {v : Value} {n : ℤ} (h : v.meaning = .number n) :
    v.narrow.Represents n := by
  unfold Represents
  cases v with
  | int w =>
      have hw : w.toInt = n := Int.cast_injective (Meaning.number.inj h)
      have hmin := w.le_toInt
      have hmax := w.toInt_lt
      -- A word is in range by its type, so narrowing has to keep it a word.
      rw [if_pos ⟨by omega, by omega⟩]
      exact ⟨w, rfl, hw⟩
  | decimal d =>
      have hd : d.toRat = n := Meaning.number.inj h
      rw [narrow_decimal hd]
      split
      next hrange =>
        -- In range the decimal becomes a word, which has room for exactly this integer.
        rw [if_pos ((fitsWord_iff n).mpr hrange)]
        exact ⟨_, rfl, Int64.toInt_ofInt_of_le (by omega) (by omega)⟩
      next hrange =>
        rw [if_neg (mt (fitsWord_iff n).mp hrange)]
        exact ⟨d, rfl, hd⟩
  | _ => cases h

namespace Operator

/-- One of the four operators on two integers, in whatever form they are. -/
theorem apply_integers {op : Operator} (hop : op ∈ [add, sub, mul, mod]) {left right : Value}
    {m n : ℤ} (hleft : left.meaning = .number m) (hright : right.meaning = .number n)
    (hn : op = mod → n ≠ 0) (rounding : Rounding) :
    ∃ d : Decimal, op.apply left right rounding = .push (.decimal d) ∧
      d.toRat = (op.onIntegers m n : ℤ) := by
  obtain ⟨a, ha, ham⟩ := Value.normalize_of_meaning hleft
  obtain ⟨b, hb, hbn⟩ := Value.normalize_of_meaning hright
  simp only [List.mem_cons, List.not_mem_nil, or_false] at hop
  rcases hop with rfl | rfl | rfl | rfl
  · refine ⟨a.add b, ?_, ?_⟩
    · simp only [apply, Operation.add, ha, hb]
    · rw [Decimal.toRat_add, ham, hbn, onIntegers, Int.cast_add]
  · refine ⟨a.sub b, ?_, ?_⟩
    · rw [apply, Operation.onDecimals_eq ha hb]
    · rw [Decimal.toRat_sub, ham, hbn, onIntegers, Int.cast_sub]
  · refine ⟨a.mul b, ?_, ?_⟩
    · rw [apply, Operation.onDecimals_eq ha hb]
    · rw [Decimal.toRat_mul, ham, hbn, onIntegers, Int.cast_mul]
  · refine ⟨a.rem b, ?_, Decimal.toRat_rem ham hbn⟩
    have hzero : b.isZero = false := by
      rw [Bool.eq_false_iff, ne_eq, Decimal.isZero_iff, hbn]
      exact Int.cast_ne_zero.mpr (hn rfl)
    rw [apply, Operation.onDecimals_eq ha hb, Operation.remainder, if_neg]
    rw [hzero]
    exact Bool.false_ne_true

end Operator

namespace Link

variable {α : Type}

/-- A link of one of the four operators with an integer. -/
structure OfInteger (ℓ : Link α) (vs : Variables) : Prop where
  right : (ℓ.right.int? vs).isSome
  op : ℓ.op ∈ [Operator.add, .sub, .mul, .mod]
  nonzero : ℓ.op = .mod → ℓ.right.integer vs ≠ 0

/-- The integer after a link. -/
def integer (vs : Variables) (m : ℤ) (ℓ : Link α) : ℤ :=
  ℓ.op.onIntegers m (ℓ.right.integer vs)

/-- One link takes a value that is an integer to the next integer, which is a
    decimal. -/
theorem apply_integer (nested : Nested α) (rounding : Rounding) (env : Env) (source : String)
    {ℓ : Link α} {vs vs' : Variables} {acc : Value} {m : ℤ}
    (h : ℓ.OfInteger vs) (hvs : vs'.lookup? = vs.lookup?) (hacc : acc.meaning = .number m) :
    ∃ (r : Value) (d : Decimal) (mid : Variables),
      (ℓ.right.value nested env source).outcome vs' = (.ok r, mid) ∧
        ℓ.op.apply acc r rounding = .push (.decimal d) ∧ d.toRat = (ℓ.integer vs m : ℤ) ∧
          mid.lookup? = vs.lookup? := by
  obtain ⟨n, hn⟩ := Option.isSome_iff_exists.mp h.right
  have hinteger : ℓ.right.integer vs = n.toInt := by rw [Term.integer, hn, Option.getD_some]
  obtain ⟨mid, hvalue, hmid⟩ :=
    Term.value_of_int ((ℓ.right.int?_congr hvs).trans hn) nested env source
  have hmeaning : (Value.int n).meaning = .number n.toInt := rfl
  obtain ⟨d, happly, hd⟩ := Operator.apply_integers h.op hacc hmeaning
    (fun hmod => hinteger ▸ h.nonzero hmod) rounding
  exact ⟨.int n, d, mid, hvalue, happly, by rw [integer, hinteger, hd], hmid.trans hvs⟩

variable {nested : Nested α} {rounding : Rounding} {env : Env} {source : String}

/-- Links over integers hand no operand back. -/
theorem castFree_integers {links : List (Link α)} {vs vs' : Variables} {acc : Value} {m : ℤ}
    (h : ∀ ℓ ∈ links, ℓ.OfInteger vs) (hvs : vs'.lookup? = vs.lookup?)
    (hacc : acc.meaning = .number m) :
    CastFree nested rounding env source acc links vs' := by
  -- The accumulator stands for an integer before each link, and for one behind it.
  induction links generalizing vs' acc m with
  | nil => trivial
  | cons ℓ links ih =>
      obtain ⟨r, d, mid, hvalue, happly, hd, hmid⟩ := apply_integer nested rounding env source
        (h ℓ List.mem_cons_self) hvs hacc
      rintro v mid' hv
      cases hvalue.symm.trans hv
      -- The operator pushes a number, so it asks for no cast and the fold goes on.
      refine ⟨fun l r' => by rw [happly]; nofun, fun acc' hacc' => ?_⟩
      rw [Operator.combine, happly] at hacc'
      cases hacc'
      exact ih (fun ℓ' hℓ' => h ℓ' (List.mem_cons_of_mem ℓ hℓ')) hmid (congrArg Meaning.number hd)

/-- Links over integers come to the integer that the operators come to without
    bounds. -/
theorem foldlM_integers {links : List (Link α)} {vs vs' : Variables} {acc : Value} {m : ℤ}
    (h : ∀ ℓ ∈ links, ℓ.OfInteger vs) (hvs : vs'.lookup? = vs.lookup?)
    (hacc : acc.meaning = .number m) :
    ∃ v after, (links.foldlM (apply nested rounding env source) acc).outcome vs' = (.ok v, after) ∧
      v.meaning = .number (links.foldl (integer vs) m : ℤ) := by
  induction links generalizing vs' acc m with
  | nil => exact ⟨acc, vs', rfl, hacc⟩
  | cons ℓ links ih =>
      obtain ⟨r, d, mid, hvalue, happly, hd, hmid⟩ := apply_integer nested rounding env source
        (h ℓ List.mem_cons_self) hvs hacc
      -- One link in front of the others: its value is found, and the operator pushes.
      have hlink : (apply nested rounding env source acc ℓ).outcome vs' =
          (.ok (.decimal d), mid) := by
        rw [apply, outcome_locate_eq_ok, outcome_bind_of_ok _ _ _ _ _ hvalue, Operator.combine,
          happly]
        rfl
      rw [List.foldlM_cons, outcome_bind_of_ok _ _ _ _ _ hlink, List.foldl_cons]
      exact ih (fun ℓ' hℓ' => h ℓ' (List.mem_cons_of_mem ℓ hℓ')) hmid (congrArg Meaning.number hd)

end Link

namespace Chain

variable {α : Type}

/-- A chain of the four operators over integers, none of which is zero to the
    right of `%`. -/
structure OfIntegers (c : Chain α) (vs : Variables) : Prop where
  first : (c.first.int? vs).isSome
  links : ∀ ℓ ∈ c.links, ℓ.OfInteger vs

/-- What a chain comes to in the integers, from left to right. -/
def integer (c : Chain α) (vs : Variables) : ℤ :=
  c.links.foldl (Link.integer vs) (c.first.integer vs)

theorem OfIntegers.combines {c : Chain α} {vs : Variables} (h : c.OfIntegers vs) :
    ∀ ℓ ∈ c.links, ℓ.op.combines := by
  intro ℓ hℓ
  have hop := (h.links ℓ hℓ).op
  simp only [List.mem_cons, List.not_mem_nil, or_false] at hop
  rcases hop with hop | hop | hop | hop <;> rw [hop] <;> rfl

variable {c : Chain α} {vs : Variables} (nested : Nested α) (rounding : Rounding) (env : Env)
  (source : String)

theorem castFree_integers (h : c.OfIntegers vs) : c.CastFree nested rounding env source vs := by
  obtain ⟨n, hn⟩ := Option.isSome_iff_exists.mp h.first
  obtain ⟨mid, hvalue, hmid⟩ := Term.value_of_int hn nested env source
  intro v mid' hv
  cases hvalue.symm.trans hv
  exact Link.castFree_integers h.links hmid (m := n.toInt) rfl

theorem fold_integers (h : c.OfIntegers vs) :
    ∃ v after, (c.fold nested rounding env source).outcome vs = (.ok v, after) ∧
      v.meaning = .number (c.integer vs : ℤ) := by
  obtain ⟨n, hn⟩ := Option.isSome_iff_exists.mp h.first
  obtain ⟨mid, hvalue, hmid⟩ := Term.value_of_int hn nested env source
  have hinteger : c.first.integer vs = n.toInt := by rw [Term.integer, hn, Option.getD_some]
  have hfirst := (outcome_locate_eq_ok _ source c.first.span.stop _ _ _).mpr hvalue
  rw [fold, outcome_bind_of_ok _ _ _ _ _ hfirst, integer, hinteger]
  exact Link.foldlM_integers h.links hmid rfl

/-- In the end an integer is a word exactly if it is in the range of one. -/
theorem coerced_integers (h : c.OfIntegers vs) {config : Config}
    (hbool : config.booleanMode = false) (hdecimal : config.returnDecimal = false) :
    ∃ v, ((config.coerceWhole <$> c.fold nested rounding env source).outcome vs).1 = .ok v ∧
      v.Represents (c.integer vs) := by
  obtain ⟨v, after, hfold, hmeaning⟩ := c.fold_integers nested rounding env source h
  refine ⟨v.narrow, ?_, Value.narrow_represents hmeaning⟩
  rw [outcome_map, hfold]
  simp only [Except.map, Config.coerceWhole, Config.coerceNested, hbool, hdecimal,
    Bool.false_eq_true, if_false]

/-- A text and a program that are chains of the four operators over integers come
    to the integer that applying the operators from left to right comes to,
    however large the integers on the way are. -/
theorem whole_eq_integer (config : Config) (env : Env) (vs : Variables)
    (hbool : config.booleanMode = false) (hdecimal : config.returnDecimal = false) :
    (∀ (text : String) (c : Chain String) (leftover : Bool),
      Token.read text = ⟨c.tokens, .finished leftover⟩ → c.OfIntegers vs →
        ∃ v, ((Interpret.whole config env text).outcome vs).1 = .ok v ∧
          v.Represents (c.integer vs)) ∧
    ∀ (p : Program) (c : Chain Program), p.nodes = c.tokens → c.OfIntegers vs →
      ∃ v, ((p.run config env).outcome vs).1 = .ok v ∧ v.Represents (c.integer vs) := by
  constructor
  · intro text c leftover hread h
    rw [Interpret.whole_eq, hread, outcome_map,
      run_eq_fold _ _ _ _ _ _ _ h.combines (castFree_integers _ _ _ _ h), ← outcome_map]
    exact coerced_integers _ _ _ _ h hbool hdecimal
  · intro p c hnodes h
    rw [Program.run_eq, Program.toReading, hnodes, outcome_map,
      run_eq_fold _ _ _ _ _ _ _ h.combines (castFree_integers _ _ _ _ h), ← outcome_map]
    exact coerced_integers _ _ _ _ h hbool hdecimal

/-- The product of the smallest and the largest word, and what it leaves. -/
def farOut : Chain String where
  first := ⟨.literal (.int Int64.minValue), ⟨0, 20⟩, false⟩
  links :=
    [⟨.mul, ⟨21, 22⟩, ⟨.identifier "x", ⟨23, 24⟩, false⟩⟩,
      ⟨.sub, ⟨25, 26⟩, ⟨.literal (.int (-1)), ⟨27, 29⟩, false⟩⟩,
      ⟨.mod, ⟨30, 31⟩, ⟨.literal (.int 1000), ⟨32, 36⟩, false⟩⟩]

/-- Out of the range of a word, and back into it. -/
theorem whole_eq_integer_farOut :
    Token.read "-9223372036854775808 * x - -1 % 1000" = ⟨farOut.tokens, .finished false⟩ ∧
      farOut.OfIntegers (.ofGlobals (.ofList [("x", .int Int64.maxValue)])) ∧
      ∃ v, ((Interpret.whole {} ⟨.null, .null⟩ "-9223372036854775808 * x - -1 % 1000").outcome
          (.ofGlobals (.ofList [("x", .int Int64.maxValue)]))).1 = .ok v ∧
        v.Represents (-55) := by
  have hread : Token.read "-9223372036854775808 * x - -1 % 1000" =
      ⟨farOut.tokens, .finished false⟩ := by
    rw [Token.read_eq 40 (by decide)]
    rfl
  have hints : farOut.OfIntegers (.ofGlobals (.ofList [("x", .int Int64.maxValue)])) := by
    refine ⟨rfl, fun ℓ hℓ => ?_⟩
    simp only [farOut, List.mem_cons, List.not_mem_nil, or_false] at hℓ
    rcases hℓ with rfl | rfl | rfl <;> exact ⟨rfl, by decide, by decide⟩
  have hvalue : farOut.integer (.ofGlobals (.ofList [("x", .int Int64.maxValue)])) = -55 := by
    decide
  refine ⟨hread, hints, ?_⟩
  rw [← hvalue]
  exact (whole_eq_integer {} ⟨.null, .null⟩ _ rfl rfl).1 _ _ _ hread hints

end Chain

end Reckon
