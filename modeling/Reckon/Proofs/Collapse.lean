import Reckon.Pass

/-!
# Working off a Stack

What `Stack.collapse` does to a stack on which values and operators alternate.
Read from the bottom, such a stack is a value, an operator, a value, and so on:
operands that wait for each other, with the operators between them. It is
worked off in one of two layouts. After a deferred junction or an operand that
completes one, the stack itself is worked off, its value on top. After an
operator and its right operand were read, the operator is on top of both.

`Alternates` counts from the bottom, so that whether an entry is a value is a
matter of how many entries are below it, and taking entries off the top never
needs a case distinction. A stack that alternates and has an odd number of
entries has a value on top, and that is what `Workable` asks of both layouts.

From such a stack the work never gets stuck on its layout (`triple?` always
finds an operator between two values), ends in such a stack again, and never
makes it longer (`collapse_workable`). Only `&&` and `||` ever put operands
back, so an operator that was just read leaves the stack at most as long as it
was before the operator came (`collapse_pushed`).

## Main definitions

* `Stack.Alternates`: Values and operators alternate, a value at the bottom.
* `Stack.Workable`: A stack in one of the two layouts.
* `Stack.Passes`: The stacks that working off a stack goes through.
* `Outcome.Plain`: Outcomes that neither defer nor blame the layout.

## Theorems

* `Operator.apply_plain`: Only junctions defer.
* `Stack.triple?_of_workable`: There is always an operator between two values.
* `Stack.collapse_workable`: Working off a stack keeps its shape.
* `Stack.collapse_pushed`: An operator just read leaves nothing behind.
* `Stack.length_le_of_passes`: No stack on the way is longer than the first.
-/

namespace Reckon

/-- An outcome that does not hand its operands back to wait, and whose failure
    is not that values and operators do not alternate. -/
def Outcome.Plain : Outcome → Prop
  | .defer _ _ => False
  | .fail cause => cause ≠ .illFormed .malformed
  | _ => True

namespace Operation

theorem onDecimals_plain (operate : Decimal → Decimal → Outcome) (left right : Value)
    (h : ∀ a b, (operate a b).Plain) : (onDecimals operate left right).Plain := by
  unfold onDecimals
  split
  next a b _ _ => exact h a b
  next => trivial

theorem divide_plain (rounding : Rounding) (a b : Decimal) : (divide rounding a b).Plain := by
  unfold divide
  split
  · exact Cause.noConfusion
  · split
    · trivial
    · exact Cause.noConfusion

theorem remainder_plain (a b : Decimal) : (remainder a b).Plain := by
  unfold remainder
  split
  · exact Cause.noConfusion
  · trivial

theorem add_plain (left right : Value) : (Operation.add left right).Plain := by
  unfold Operation.add
  split <;> trivial

theorem coalesce_plain (left right : Value) : (Operation.coalesce left right).Plain := by
  unfold Operation.coalesce
  split
  · trivial
  · split <;> trivial

theorem matchPattern_plain (left right : Value) : (matchPattern left right).Plain := by
  unfold matchPattern
  split
  · trivial
  · exact Cause.noConfusion

theorem resemble_plain (left right : Value) : (resemble left right).Plain := by
  unfold resemble
  split
  · trivial
  · exact Cause.noConfusion

theorem onType_plain (holds : TypeName → Bool) (right : Value) : (onType holds right).Plain := by
  unfold onType
  split
  · trivial
  · split
    · trivial
    · exact Cause.noConfusion
  · exact Cause.noConfusion

theorem onBits_plain (operate : BitVec 32 → BitVec 32 → BitVec 32) (left right : Value) :
    (onBits operate left right).Plain := by
  unfold onBits
  split <;> trivial

theorem project_plain (path list : Value) : (project path list).Plain := by
  unfold project
  split
  · split
    · trivial
    · exact Cause.noConfusion
  · exact Cause.noConfusion

theorem conjoin_ne_fail (left right : Value) (cause : Cause) :
    conjoin left right ≠ .fail cause := by
  unfold conjoin
  split <;> exact Outcome.noConfusion

theorem disjoin_ne_fail (left right : Value) (cause : Cause) :
    disjoin left right ≠ .fail cause := by
  unfold disjoin
  split <;> exact Outcome.noConfusion

end Operation

namespace Operator

open Operation in
/-- Only junctions defer, and no operator blames the layout of the stack. -/
theorem apply_plain (op : Operator) (left right : Value) (rounding : Rounding)
    (hand : op ≠ .and) (hor : op ≠ .or) : (op.apply left right rounding).Plain := by
  -- One lemma for each kind of operation, of which most ignore what the operator is.
  cases op with
  | add => exact add_plain left right
  | sub | mul => exact onDecimals_plain _ left right fun _ _ => trivial
  | div => exact onDecimals_plain _ left right (divide_plain rounding)
  | mod => exact onDecimals_plain _ left right remainder_plain
  | gt | lt | gtEq | ltEq => exact onDecimals_plain _ left right fun _ _ => trivial
  | and => exact absurd rfl hand
  | or => exact absurd rfl hor
  | coalesce => exact coalesce_plain left right
  | regex => exact matchPattern_plain left right
  | similarity => exact resemble_plain left right
  | instanceOf | convertibleTo => exact onType_plain _ right
  | bitAnd | bitOr | bitXor | shl | ushl | shr | ushr => exact onBits_plain _ left right
  | projection => exact project_plain left right
  | ternary | ternaryElse | endOfStatement =>
      simp only [apply, Outcome.Plain, ne_eq, Cause.illFormed.injEq, reduceCtorEq,
        not_false_eq_true]
  | _ => trivial

/-- No operator blames the layout of the stack. -/
theorem apply_ne_malformed (op : Operator) (left right : Value) (rounding : Rounding) :
    op.apply left right rounding ≠ .fail (.illFormed .malformed) := by
  intro h
  by_cases hand : op = .and
  · subst hand
    exact Operation.conjoin_ne_fail left right _ h
  · by_cases hor : op = .or
    · subst hor
      exact Operation.disjoin_ne_fail left right _ h
    · have := apply_plain op left right rounding hand hor
      rw [h] at this
      exact this rfl

/-- An operator that puts its operands back is a junction. -/
theorem eq_junction_of_apply_eq_defer (op : Operator) (left right left' right' : Value)
    (rounding : Rounding) (h : op.apply left right rounding = .defer left' right') :
    op = .and ∨ op = .or := by
  by_cases hand : op = .and
  · exact Or.inl hand
  · by_cases hor : op = .or
    · exact Or.inr hor
    · have := apply_plain op left right rounding hand hor
      rw [h] at this
      exact this.elim

end Operator

namespace Stack

/-- Values and operators alternate, with a value at the bottom: an entry is a
    value if the number of entries below it is even, and an operator if it is
    odd. -/
def Alternates : Stack → Prop
  | [] => True
  | .value _ :: below => below.length % 2 = 0 ∧ Alternates below
  | .op _ :: below => below.length % 2 = 1 ∧ Alternates below

/-- A stack of odd length on which values and operators alternate has a value
    on top. -/
theorem Alternates.exists_value {s : Stack} (h : s.Alternates) (hodd : s.length % 2 = 1) :
    ∃ v below, s = .value v :: below ∧ Alternates below ∧ below.length % 2 = 0 := by
  rcases s with _ | ⟨v | o, below⟩
  · simp only [List.length_nil, Nat.zero_mod, Nat.zero_ne_one] at hodd
  · exact ⟨v, below, rfl, h.2, h.1⟩
  · have := h.1
    simp only [List.length_cons] at hodd
    omega

/-- A stack of even length on which values and operators alternate has an
    operator on top, unless it is empty. -/
theorem Alternates.exists_op {s : Stack} (h : s.Alternates) (heven : s.length % 2 = 0)
    (hne : s ≠ []) : ∃ o below, s = .op o :: below ∧ Alternates below ∧ below.length % 2 = 1 := by
  rcases s with _ | ⟨v | o, below⟩
  · exact absurd rfl hne
  · have := h.1
    simp only [List.length_cons] at heven
    omega
  · exact ⟨o, below, rfl, h.2, h.1⟩

/-- A stack in one of the two layouts that are worked off: alternating with a
    value on top, or such a stack under another value and an operator. -/
def Workable (s : Stack) : Prop :=
  (s.Alternates ∧ s.length % 2 = 1) ∨
    ∃ o v below, s = .op o :: .value v :: below ∧ Alternates below ∧ below.length % 2 = 1

/-- Working off an operator and its operands. -/
theorem collapse_of_triple? (rounding : Rounding) {s below : Stack} {op : Operator}
    {left right : Value} (h : triple? s = some (op, left, right, below)) :
    s.collapse rounding =
      match op.apply left right rounding with
      | .push v => collapse rounding (.value v :: below)
      | .replace v => .ok (.settled [.value v])
      | .defer l r => .ok (.settled (.value r :: .op op :: .value l :: below))
      | .cast l r => .ok (.stuck op l r below)
      | .fail cause => .error cause := by
  have hlen := length_triple?_lt h
  rw [collapse, if_neg (by omega)]
  split
  next hnone =>
    rw [h] at hnone
    cases hnone
  next hsome =>
    rw [h] at hsome
    cases hsome
    rfl

/-- Working off an operator and its operands with nothing below them. -/
theorem collapse_of_triple (rounding : Rounding) {s : Stack} {op : Operator} {left right : Value}
    (h : triple? s = some (op, left, right, [])) :
    s.collapse rounding =
      match op.apply left right rounding with
      | .push v | .replace v => .ok (.settled [.value v])
      | .defer l r => .ok (.settled [.value r, .op op, .value l])
      | .cast l r => .ok (.stuck op l r [])
      | .fail cause => .error cause := by
  rw [collapse_of_triple? rounding h]
  -- A value that is pushed is alone, and settles at once.
  cases op.apply left right rounding with
  | push v =>
      simp only
      rw [collapse]
      rfl
  | _ => rfl

/-- A value on top of what was below an operator and its operands. -/
theorem workable_value {v : Value} {below : Stack} (h : below.Alternates)
    (heven : below.length % 2 = 0) : Workable (.value v :: below) := by
  refine Or.inl ⟨⟨heven, h⟩, ?_⟩
  simp only [List.length_cons]
  omega

/-- The operands and what is below them are all of the stack. -/
theorem length_of_triple? {s below : Stack} {o : Operator} {left right : Value}
    (h : triple? s = some (o, left, right, below)) : s.length = below.length + 3 := by
  unfold triple? at h
  split at h
  all_goals cases h
  all_goals rfl

/-- In a stack with more than one entry there is always an operator between two
    values, and what is below them alternates. -/
theorem triple?_of_workable {s : Stack} (h : s.Workable) (hlen : 1 < s.length) :
    ∃ o left right below, triple? s = some (o, left, right, below) ∧ below.Alternates ∧
      below.length % 2 = 0 := by
  rcases h with ⟨halt, hodd⟩ | ⟨o, right, below, rfl, halt, hodd⟩
  · -- The stack itself is worked off: a value, an operator and a value are on top.
    rcases halt.exists_value hodd with ⟨right, s₁, rfl, halt₁, heven₁⟩
    have hne : s₁ ≠ [] := by
      rintro rfl
      simp only [List.length_singleton, Nat.lt_irrefl] at hlen
    rcases halt₁.exists_op heven₁ hne with ⟨o, s₂, rfl, halt₂, hodd₂⟩
    rcases halt₂.exists_value hodd₂ with ⟨left, below, rfl, halt₃, heven₃⟩
    exact ⟨o, left, right, below, rfl, halt₃, heven₃⟩
  · rcases halt.exists_value hodd with ⟨left, below', rfl, halt', heven'⟩
    exact ⟨o, left, right, below', rfl, halt', heven'⟩

/-- What working off a stack may come to: a stack of the same shape with at
    most `n` entries, or operands above at least one entry less. -/
def Within (n : Nat) : Except Cause Collapsed → Prop
  | .ok (.settled s) => s.Alternates ∧ s.length % 2 = 1 ∧ s.length ≤ n
  | .ok (.stuck _ _ _ below) => below.Alternates ∧ below.length % 2 = 0 ∧ below.length + 1 ≤ n
  | .error cause => cause ≠ .illFormed .malformed

theorem Within.mono {r : Except Cause Collapsed} {m n : Nat} (h : Within m r) (hmn : m ≤ n) :
    Within n r := by
  rcases r with cause | s | ⟨o, left, right, below⟩
  · exact h
  · exact ⟨h.1, h.2.1, Nat.le_trans h.2.2 hmn⟩
  · exact ⟨h.1, h.2.1, Nat.le_trans h.2.2 hmn⟩

/-- Working off a stack keeps its shape and never makes it longer. -/
theorem collapse_workable (rounding : Rounding) (s : Stack) (h : s.Workable) :
    Within s.length (s.collapse rounding) := by
  -- The recursion is on the stack that is left after one operator was applied.
  fun_induction collapse rounding s with
  | case1 s hlen =>
      rcases h with ⟨halt, hodd⟩ | ⟨o, v, below, rfl, _, _⟩
      · exact ⟨halt, hodd, Nat.le_refl _⟩
      · simp only [List.length_cons] at hlen
        omega
  | case2 s hlen hnone =>
      -- There always is an operator to apply.
      rcases triple?_of_workable h (by omega) with ⟨o, left, right, below, hs, _⟩
      rw [hs] at hnone
      cases hnone
  | case3 s hlen o left right below hs v happ ih =>
      rcases triple?_of_workable h (by omega) with ⟨o', left', right', below', hs', halt, heven⟩
      rw [hs, Option.some.injEq, Prod.mk.injEq, Prod.mk.injEq, Prod.mk.injEq] at hs'
      rcases hs' with ⟨rfl, rfl, rfl, rfl⟩
      -- Three entries became one value, on top of what was below them.
      refine (ih (workable_value halt heven)).mono ?_
      rw [length_of_triple? hs, List.length_cons]
      omega
  | case4 s hlen o left right below hs v happ =>
      exact ⟨⟨rfl, trivial⟩, rfl, by simp only [List.length_singleton]; omega⟩
  | case5 s hlen o left right below hs left' right' happ =>
      rcases triple?_of_workable h (by omega) with ⟨o', _, _, below', hs', halt, heven⟩
      rw [hs, Option.some.injEq, Prod.mk.injEq, Prod.mk.injEq, Prod.mk.injEq] at hs'
      rcases hs' with ⟨rfl, rfl, rfl, rfl⟩
      -- A junction puts its operands back, with itself between them.
      simp only [Within, Alternates, List.length_cons, length_of_triple? hs]
      exact ⟨⟨by omega, by omega, by omega, halt⟩, by omega, by omega⟩
  | case6 s hlen o left right below hs left' right' happ =>
      rcases triple?_of_workable h (by omega) with ⟨o', _, _, below', hs', halt, heven⟩
      rw [hs, Option.some.injEq, Prod.mk.injEq, Prod.mk.injEq, Prod.mk.injEq] at hs'
      rcases hs' with ⟨rfl, rfl, rfl, rfl⟩
      exact ⟨halt, heven, by rw [length_of_triple? hs]; omega⟩
  | case7 s hlen o left right below hs cause happ =>
      rintro rfl
      exact Operator.apply_ne_malformed o left right rounding happ

/-- An operator that was just read, and is no junction, leaves a stack no longer
    than the one it was read on. -/
theorem collapse_pushed (rounding : Rounding) (o : Operator) (right : Value) (s : Stack)
    (hand : o ≠ .and) (hor : o ≠ .or) (halt : s.Alternates) (hodd : s.length % 2 = 1) :
    Within s.length (collapse rounding (.op o :: .value right :: s)) := by
  rcases halt.exists_value hodd with ⟨left, below, rfl, halt', heven⟩
  rw [collapse, if_neg (by simp only [List.length_cons]; omega)]
  simp only [triple?]
  split
  next v happ =>
    refine (collapse_workable rounding _ (workable_value halt' heven)).mono ?_
    simp only [List.length_cons, Nat.le_refl]
  next v happ =>
    refine ⟨⟨rfl, trivial⟩, rfl, ?_⟩
    simp only [List.length_cons, List.length_nil]
    omega
  next left' right' happ =>
    -- Operands are put back by junctions only.
    rcases o.eq_junction_of_apply_eq_defer _ _ _ _ _ happ with rfl | rfl
    · exact absurd rfl hand
    · exact absurd rfl hor
  next left' right' happ => exact ⟨halt', heven, Nat.le_refl _⟩
  next cause happ =>
    rintro rfl
    exact Operator.apply_ne_malformed o left right rounding happ

/-- The stacks that working off a stack goes through: itself, every stack while
    entries are taken off and put on, and those that the rest of the work goes
    through. -/
inductive Passes (rounding : Rounding) : Stack → Stack → Prop
  | here (s : Stack) : Passes rounding s s
  | taken {s s' below : Stack} {o : Operator} {left right : Value} :
      triple? s = some (o, left, right, below) → s' <:+ s → Passes rounding s s'
  | push {s s' below : Stack} {o : Operator} {left right v : Value} :
      triple? s = some (o, left, right, below) → o.apply left right rounding = .push v →
      Passes rounding (.value v :: below) s' → Passes rounding s s'
  | replace {s below : Stack} {o : Operator} {left right v : Value} :
      triple? s = some (o, left, right, below) → o.apply left right rounding = .replace v →
      Passes rounding s [.value v]
  | defer {s s' below : Stack} {o : Operator} {left right left' right' : Value} :
      triple? s = some (o, left, right, below) →
      o.apply left right rounding = .defer left' right' →
      s' <:+ (.value right' :: .op o :: .value left' :: below) → Passes rounding s s'

/-- No stack on the way is longer than the first. -/
theorem length_le_of_passes {rounding : Rounding} {s s' : Stack} (h : Passes rounding s s') :
    s'.length ≤ s.length := by
  -- Three entries become one when a value is pushed, and none is added otherwise.
  induction h with
  | here s => exact Nat.le_refl _
  | taken _ hsuffix => exact hsuffix.length_le
  | push hs _ _ ih =>
      rw [length_of_triple? hs]
      simp only [List.length_cons] at ih
      omega
  | replace hs _ =>
      rw [length_of_triple? hs, List.length_singleton]
      omega
  | defer hs _ hsuffix =>
      have := hsuffix.length_le
      rw [length_of_triple? hs]
      simpa only [List.length_cons] using this

end Stack

end Reckon
