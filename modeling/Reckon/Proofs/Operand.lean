import Reckon.Operand
import Reckon.Proofs.Outcome

/-!
# Evaluating Operands

What the value of an operand depends on. A group and a list hand the work to
their expressions, one after the other, and the variables that one of them
leaves are those the next one starts from. `Visits` follows them through: it
says which expression is evaluated from which variables. Two ways of evaluating
expressions that agree wherever the first of them goes give the operand the
same value (`Token.value_congr`), and that is the only way in which nesting
enters an argument about passes.

Expressions may also be renamed. The tokens of a text and those of a program
differ in what stands inside their groups and nowhere else, so evaluating
renamed tokens is evaluating the tokens with a renamed evaluator
(`Token.value_map`).

## Main definitions

* `Nested.comap`: Evaluating expressions under other names.
* `Nested.Visits`: Which expressions a list of them evaluates, and from where.

## Theorems

* `Env.resolve_of_lookup`: A path that is a variable.
* `Env.resolve_ensures`: A path fails without a complaint about how it is used.
* `Token.value_ensures`: The errors of an operand are those of its expressions
  and a few of its own.
* `Token.value_congr`: Evaluators that agree where they are used.
* `Token.value_map`: Evaluating a renamed operand.
-/

namespace Reckon

open Eval

namespace Nested

variable {α β : Type}

/-- Evaluating expressions that stand for others. -/
def comap (f : β → α) (nested : Nested α) : Nested β :=
  ⟨fun b => nested.text (f b), fun b => nested.eval (f b)⟩

/-- `nested.Visits as vs a vs'` says that evaluating `as` one after the other
    from `vs` comes to evaluate `a` from `vs'`. -/
inductive Visits (nested : Nested α) : List α → Variables → α → Variables → Prop
  | head {a : α} {as : List α} {vs : Variables} : Visits nested (a :: as) vs a vs
  | tail {a b : α} {as : List α} {v : Value} {vs mid vs' : Variables} :
      (nested.eval a).outcome vs = (.ok v, mid) → Visits nested as mid b vs' →
      Visits nested (a :: as) vs b vs'

/-- What is visited under other names is visited under its own. -/
theorem Visits.of_comap {f : β → α} {nested : Nested α} {bs : List β} {b : β}
    {vs vs' : Variables} (h : (nested.comap f).Visits bs vs b vs') :
    nested.Visits (bs.map f) vs (f b) vs' := by
  induction h with
  | head => exact .head
  | tail hv _ ih => exact .tail hv ih

/-- Only expressions of the list are visited. -/
theorem Visits.mem {nested : Nested α} {as : List α} {a : α} {vs vs' : Variables}
    (h : nested.Visits as vs a vs') : a ∈ as := by
  induction h with
  | head => exact List.mem_cons_self
  | tail _ _ ih => exact List.mem_cons_of_mem _ ih

end Nested

section Errors

-- `E` holds of every error that has no place and a cause that lies in the values.
variable {E : Error → Prop} (hE : ∀ cause, cause.category ≠ .compile → E (Error.of cause))

include hE

/-- Following a property path fails for a reason that lies in the values. -/
theorem Env.property_ensures (path : String) (target : Value) :
    (Env.property path target).Ensures (fun _ => True) E := by
  unfold Env.property
  split
  · exact ensures_pure _ trivial
  · exact ensures_throw _ (hE _ Category.noConfusion)

/-- Looking up a path fails for a reason that lies in the values. -/
theorem Env.resolve_ensures (env : Env) (path : String) :
    (env.resolve path).Ensures (fun _ => True) E := by
  unfold Env.resolve
  split
  · exact Env.property_ensures hE _ _
  · refine ensures_bind (Q := fun _ => True) (fun _ => trivial) fun found _ => ?_
    split
    · exact ensures_pure _ trivial
    · exact Env.property_ensures hE _ _
    · split
      · exact ensures_pure _ trivial
      · exact ensures_fail _ (hE _ Category.noConfusion)

/-- Inverting a value fails because of its kind. -/
theorem Operand.inverse_ensures (v : Value) :
    (Operand.inverse v).Ensures (fun _ => True) E := by
  unfold Operand.inverse
  split
  · exact ensures_pure _ trivial
  · exact ensures_fail _ (hE _ Category.noConfusion)

end Errors

/-- Looking up a name changes what no name means. -/
theorem Variables.lookup?_afterRead (vs : Variables) (name : String) :
    (vs.afterRead name).lookup? = vs.lookup? := by
  unfold afterRead
  split <;> rfl

/-- A path without a point is the variable of that name, if there is one. -/
theorem Env.resolve_of_lookup (env : Env) {name : String} {v : Value} {vs : Variables}
    (hpoint : '.' ∉ name.toList) (hv : vs.lookup? name = some v) :
    (env.resolve name).outcome vs = (.ok v, vs.afterRead name) := by
  have hlookup : (Eval.resolve name).outcome vs = (.ok (some v), vs.afterRead name) := by
    rw [Eval.resolve, outcome_ofOutcome, Variables.resolve, hv]
  unfold resolve
  rw [Text.cutAt_of_not_mem hpoint]
  split
  next heq => cases (Prod.mk.inj heq).2
  next heq =>
    cases heq
    rw [String.ofList_toList, outcome_bind_of_ok _ _ _ _ _ hlookup]
    rfl

namespace Operand

variable {α β : Type}

theorem elementValues_ensures {P : Cause → Prop} (nested : Nested α) (source : String)
    (start : Nat) (elements : List α)
    (h : ∀ a ∈ elements, (nested.eval a).Ensures (fun _ => True) fun e => P e.cause) :
    (elementValues nested source start elements).Ensures (fun _ => True) fun e => P e.cause := by
  induction elements generalizing start with
  | nil => exact ensures_pure _ trivial
  | cons a as ih =>
      have ha := h a List.mem_cons_self
      refine ensures_bind (ensures_mapError ha fun _ he => he) fun _ _ => ?_
      refine ensures_bind (ih _ fun b hb => h b (List.mem_cons_of_mem _ hb)) fun _ _ => ?_
      exact ensures_pure _ trivial

/-- The errors of an operand are those of its expressions and those that lie in
    the values it finds. -/
theorem value_ensures {P : Cause → Prop} (nested : Nested α) (env : Env) (source : String)
    (inside : Nat) (o : Operand α) (hP : ∀ cause, cause.category ≠ .compile → P cause)
    (h : ∀ a ∈ o.nested, (nested.eval a).Ensures (fun _ => True) fun e => P e.cause) :
    (o.value nested env source inside).Ensures (fun _ => True) fun e => P e.cause := by
  cases o with
  | literal value => exact ensures_pure _ trivial
  | identifier path => exact Env.resolve_ensures hP env path
  | self => exact ensures_pure _ trivial
  | group inner => exact ensures_mapError (h inner (List.mem_singleton_self _)) fun _ he => he
  | list elements =>
      refine ensures_bind (elementValues_ensures nested source inside elements h) fun _ _ => ?_
      exact ensures_pure _ trivial

theorem elementValues_congr (nested nested' : Nested α) (source : String) (start : Nat)
    (elements : List α) (vs : Variables) (htext : nested.text = nested'.text)
    (h : ∀ a vs', nested.Visits elements vs a vs' →
      (nested.eval a).outcome vs' = (nested'.eval a).outcome vs') :
    (elementValues nested source start elements).outcome vs =
      (elementValues nested' source start elements).outcome vs := by
  induction elements generalizing start vs with
  | nil => rfl
  | cons a as ih =>
      unfold elementValues
      simp only [htext]
      refine outcome_bind_congr _ _ _ _ vs (outcome_mapError_congr _ _ _ vs (h a vs .head)) ?_
      intro v mid hv
      -- The rest of the list is evaluated from the variables that the first element leaves.
      rw [lift, outcome_mapError_eq_ok] at hv
      refine outcome_bind_congr _ _ _ _ mid (ih _ mid fun b vs' hb => ?_) fun _ _ _ => rfl
      exact h b vs' (.tail hv hb)

/-- Two ways of evaluating expressions that agree wherever the first of them
    goes give an operand the same value. -/
theorem value_congr (nested nested' : Nested α) (env : Env) (source : String) (inside : Nat)
    (o : Operand α) (vs : Variables) (htext : nested.text = nested'.text)
    (h : ∀ a vs', nested.Visits o.nested vs a vs' →
      (nested.eval a).outcome vs' = (nested'.eval a).outcome vs') :
    (o.value nested env source inside).outcome vs =
      (o.value nested' env source inside).outcome vs := by
  -- Only what is evaluated inside can differ, and there the two agree.
  cases o with
  | literal value => rfl
  | identifier path => rfl
  | self => rfl
  | group inner =>
      simp only [value, htext]
      exact outcome_mapError_congr _ _ _ vs (h inner vs .head)
  | list elements =>
      refine outcome_bind_congr _ _ _ _ vs ?_ fun _ _ _ => rfl
      exact elementValues_congr nested nested' source inside elements vs htext h

theorem elementValues_map (f : β → α) (nested : Nested α) (source : String) (start : Nat)
    (elements : List β) :
    elementValues nested source start (elements.map f) =
      elementValues (nested.comap f) source start elements := by
  induction elements generalizing start with
  | nil => rfl
  | cons b bs ih =>
      simp only [List.map_cons, elementValues, ih]
      rfl

/-- Evaluating a renamed operand is evaluating the operand with a renamed
    evaluator. -/
theorem value_map (f : β → α) (nested : Nested α) (env : Env) (source : String) (inside : Nat)
    (o : Operand β) :
    (o.map f).value nested env source inside = o.value (nested.comap f) env source inside := by
  cases o with
  | list elements => simp only [map, value, elementValues_map]
  | _ => rfl

end Operand

namespace Token

variable {α β : Type}

theorem value_ensures {P : Cause → Prop} (nested : Nested α) (env : Env) (source : String)
    (t : Token α) (o : Operand α) (hP : ∀ cause, cause.category ≠ .compile → P cause)
    (h : ∀ a ∈ o.nested, (nested.eval a).Ensures (fun _ => True) fun e => P e.cause) :
    (t.value nested env source o).Ensures (fun _ => True) fun e => P e.cause := by
  unfold Token.value
  refine ensures_bind (o.value_ensures nested env source _ hP h) fun v _ => ?_
  split
  · exact Operand.inverse_ensures hP v
  · exact ensures_pure _ trivial

theorem value_congr (nested nested' : Nested α) (env : Env) (source : String) (t : Token α)
    (o : Operand α) (vs : Variables) (htext : nested.text = nested'.text)
    (h : ∀ a vs', nested.Visits o.nested vs a vs' →
      (nested.eval a).outcome vs' = (nested'.eval a).outcome vs') :
    (t.value nested env source o).outcome vs = (t.value nested' env source o).outcome vs :=
  outcome_bind_congr _ _ _ _ vs (o.value_congr nested nested' env source _ vs htext h)
    fun _ _ _ => rfl

theorem value_map (f : β → α) (nested : Nested α) (env : Env) (source : String) (t : Token β)
    (o : Operand β) :
    (t.map f).value nested env source (o.map f) = t.value (nested.comap f) env source o := by
  unfold Token.value
  rw [Operand.value_map]
  rfl

theorem value_of_not_negated (nested : Nested α) (env : Env) (source : String)
    {t : Token α} (ht : t.negated = false) (o : Operand α) :
    t.value nested env source o = o.value nested env source (t.span.start + 1) := by
  unfold value
  simp only [ht, Bool.false_eq_true, if_false]
  exact bind_pure _

end Token

end Reckon
