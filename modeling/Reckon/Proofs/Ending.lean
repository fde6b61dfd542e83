import Reckon.Proofs.StackShape
import Reckon.Proofs.Statement

/-!
# The End of a Run

When no token is left, the assignments that are still being read end. From the
inside out, each of them stores the value that its frame has come to, which
then goes to its place in the frame around it. What the outermost frame holds
afterwards is the result.

`Pass.finish` does this and hands over the result alone. `Pass.unwind` hands over
the pass that has the result, and `Pass.Ends` keeps the passes on the way, so that
it can be said what the last one of them holds and how often operands were
regrouped until then.

## Main definitions

* `Pass.Ends`: The passes that the end of the tokens goes through.
* `Pass.unwind`: The last of these passes.
* `Pass.Final`: The pass in which a run ends.

## Theorems

* `Pass.finish_eq_unwind`: An end comes to the result of the last pass.
* `Pass.outcome_unwind_eq_ok`: The last pass is the one the others lead to.
* `Pass.outcome_finish_eq_ok`: What an end comes to.
* `Pass.outcome_run_eq_ok_iff_final`: A run comes to the result of its last
  pass.
* `Pass.Ends.invariant`: What handing a value outward keeps is kept by an end.
* `Pass.Final.shaped`: The last pass is in shape.
-/

namespace Reckon

open Eval

namespace Pass

variable {α : Type}

/-- The passes that the end of the tokens goes through, with the variables. An
    assignment whose value has been read stores it, and the value goes to its
    place in the frame around it. -/
inductive Ends (rounding : Rounding) : Pass → Variables → Pass → Variables → Prop
  | here (p : Pass) (vs : Variables) : Ends rounding p vs p vs
  | handed {p q r : Pass} {a : Assignment} {outer : List Assignment} {v : Value}
      {vs vs' : Variables} : p.outer = a :: outer → missing? p.expecting = none →
      p.frame.assigned a.target = .ok v →
      (⟨{ a.frame with closed := false }, .statement, outer, p.regroupings⟩ : Pass).place rounding
        a.slot v = .ok q →
      Ends rounding q (vs.assign a.target v) r vs' → Ends rounding p vs r vs'

/-- What handing a value outward keeps is kept by an end. -/
theorem Ends.invariant {rounding : Rounding} {I : Pass → Prop}
    (hstep : ∀ (p q : Pass) (a : Assignment) (outer : List Assignment) (v : Value), I p →
      p.outer = a :: outer →
      (⟨{ a.frame with closed := false }, .statement, outer, p.regroupings⟩ : Pass).place rounding
        a.slot v = .ok q → I q)
    {p q : Pass} {vs vs' : Variables} (h : p.Ends rounding vs q vs') (hp : I p) : I q := by
  induction h with
  | here => exact hp
  | handed houter _ _ hplace _ ih => exact ih (hstep _ _ _ _ _ hp houter hplace)

/-- An end without assignments changes nothing. -/
theorem Ends.eq_of_outer_nil {rounding : Rounding} {p q : Pass} {vs vs' : Variables}
    (h : p.Ends rounding vs q vs') (houter : p.outer = []) : q = p ∧ vs' = vs := by
  cases h with
  | here => exact ⟨rfl, rfl⟩
  | handed hcons =>
      rw [houter] at hcons
      cases hcons

/-- Values that are handed outward keep every frame in shape. -/
theorem Ends.shaped {rounding : Rounding} {p q : Pass} {vs vs' : Variables}
    (h : p.Ends rounding vs q vs') (hp : p.Shaped) : q.Shaped := by
  refine h.invariant (I := Shaped) (fun p q a outer v hp houter hplace => ?_) hp
  have hmem := hp.outer
  rw [houter] at hmem
  rcases hmem a List.mem_cons_self with ⟨hframe, hfits⟩
  have hrest : ∀ b ∈ outer, b.frame.Shaped p.regroupings ∧ b.slot.Fits b.frame :=
    fun b hb => hmem b (List.mem_cons_of_mem _ hb)
  exact shaped_of_place hframe.marked hfits.marked hrest hplace

/-- Values that are handed outward go to frames that have read an operand. -/
theorem Ends.begun {rounding : Rounding} {p q : Pass} {vs vs' : Variables}
    (h : p.Ends rounding vs q vs') (hp : p.Begun) : q.Begun := by
  refine h.invariant (I := Begun) (fun p q a outer v hp houter hplace => ?_) hp
  have hplaced := placed_of_place hplace
  have hbegun := hp.outer
  rw [houter] at hbegun
  refine begun_of_seen (hplaced.seen_of_imp (hbegun a List.mem_cons_self)) ?_ hplaced.ne_another
  rw [hplaced.outer_eq]
  exact fun b hb => hbegun b (List.mem_cons_of_mem _ hb)

/-- The pass at the end of the tokens, once the assignments that are still being
    read have handed their values outward. -/
def unwind (rounding : Rounding) (frame : Frame) (expecting : Expecting) (regroupings : Nat) :
    List Assignment → Eval Pass
  | [] =>
    match missing? expecting with
    | some cause => Eval.fail cause
    | none => return ⟨frame, expecting, [], regroupings⟩
  | a :: outer =>
    match missing? expecting with
    | some cause => Eval.fail cause
    | none => do
      let v ← Eval.ofExcept (frame.assigned a.target)
      Eval.assign a.target v
      let p ← Eval.ofExcept (Pass.place rounding
        ⟨{ a.frame with closed := false }, .statement, outer, regroupings⟩ a.slot v)
      unwind rounding p.frame p.expecting p.regroupings outer

/-- What the end of the tokens comes to is the result of the outermost frame, once
    all values were handed outward. -/
theorem finish_eq_unwind (rounding : Rounding) (frame : Frame) (expecting : Expecting)
    (regroupings : Nat) (outer : List Assignment) :
    finish rounding frame expecting regroupings outer = (do
      let q ← unwind rounding frame expecting regroupings outer
      ofExcept q.frame.result) := by
  induction outer generalizing frame expecting regroupings with
  | nil =>
      simp only [finish, unwind]
      cases missing? expecting <;> rfl
  | cons a outer ih =>
      simp only [finish, unwind]
      cases missing? expecting with
      | some cause => rfl
      | none => simp only [bind_assoc, ih]

/-- The end of the tokens leads to the last of the passes that it goes through. -/
theorem outcome_unwind_eq_ok (rounding : Rounding) (p q : Pass) (vs vs' : Variables) :
    (unwind rounding p.frame p.expecting p.regroupings p.outer).outcome vs = (.ok q, vs') ↔
      p.Ends rounding vs q vs' ∧ q.outer = [] ∧ missing? q.expecting = none := by
  obtain ⟨frame, expecting, outer, regroupings⟩ := p
  induction outer generalizing frame expecting regroupings vs with
  | nil =>
      constructor
      · intro h
        simp only [unwind] at h
        split at h
        · cases h
        next hmissing =>
          cases h
          exact ⟨.here _ _, rfl, hmissing⟩
      · rintro ⟨hends, _, hmissing⟩
        rcases hends.eq_of_outer_nil rfl with ⟨rfl, rfl⟩
        simp only [unwind, hmissing, outcome_pure]
  | cons a outer ih =>
      constructor
      · intro h
        simp only [unwind] at h
        split at h
        · cases h
        next hmissing =>
          simp only [outcome_bind_eq_ok, outcome_ofExcept_eq_ok, outcome_assign, Prod.mk.injEq,
            true_and] at h
          rcases h with ⟨w, _, ⟨hassigned, rfl⟩, _, _, rfl, q', _, ⟨hplace, rfl⟩, hrest⟩
          -- The frames further out are the same after the value was put in its place.
          have houter : q'.outer = outer := (placed_of_place hplace).outer_eq
          subst houter
          rcases (ih _ _ _ _).mp hrest with ⟨hends, hr⟩
          exact ⟨.handed rfl hmissing hassigned hplace hends, hr⟩
      · rintro ⟨hends, hr⟩
        cases hends with
        | here => cases hr.1
        | @handed _ q' _ _ _ w _ _ hcons hmissing hassigned hplace hrest =>
            cases hcons
            have houter : q'.outer = outer := (placed_of_place hplace).outer_eq
            subst houter
            simp only [unwind, hmissing, hassigned, hplace, ofExcept_ok, pure_bind,
              outcome_bind_of_ok _ _ _ _ _ (outcome_assign _ _ _)]
            exact (ih _ _ _ _).mpr ⟨hrest, hr⟩

/-- What the end of the tokens comes to: the result of the outermost frame, once
    all values were handed outward. -/
theorem outcome_finish_eq_ok (rounding : Rounding) (p : Pass) (v : Value)
    (vs vs' : Variables) :
    (finish rounding p.frame p.expecting p.regroupings p.outer).outcome vs = (.ok v, vs') ↔
      ∃ q, p.Ends rounding vs q vs' ∧ q.outer = [] ∧ missing? q.expecting = none ∧
        q.frame.result = .ok v := by
  simp only [finish_eq_unwind, outcome_bind_eq_ok, outcome_unwind_eq_ok, outcome_ofExcept_eq_ok]
  constructor
  · rintro ⟨q, _, ⟨hends, houter, hmissing⟩, hresult, rfl⟩
    exact ⟨q, hends, houter, hmissing, hresult⟩
  · rintro ⟨q, hends, houter, hmissing, hresult⟩
    exact ⟨q, vs', ⟨hends, houter, hmissing⟩, hresult, rfl⟩

/-- The pass in which a run ends, with the variables it leaves. -/
def Final (nested : Nested α) (rounding : Rounding) (env : Env) (source : String)
    (reading : Reading α) (vs : Variables) (q : Pass) (vs' : Variables) : Prop :=
  ∃ leftover p mid, reading.ending = .finished leftover ∧
    (after nested rounding env source start reading.tokens).outcome vs = (.ok p, mid) ∧
    (p.atEnd leftover).Ends rounding mid q vs' ∧ q.outer = [] ∧ missing? q.expecting = none

/-- The pass after a whole run is in shape. -/
theorem shaped_of_after {nested : Nested α} {rounding : Rounding} {env : Env} {source : String}
    {ts : List (Token α)} {p : Pass} {vs vs' : Variables}
    (hp : (after nested rounding env source start ts).outcome vs = (.ok p, vs')) : p.Shaped :=
  (after_ensures (P := fun _ => True) (fun _ _ => trivial) nested rounding env source start ts
    shaped_start fun _ _ _ _ => ensures_true _).of_ok hp

theorem Final.shaped {nested : Nested α} {rounding : Rounding} {env : Env} {source : String}
    {reading : Reading α} {q : Pass} {vs vs' : Variables}
    (h : Final nested rounding env source reading vs q vs') : q.Shaped := by
  rcases h with ⟨leftover, p, mid, _, hp, hends, _, _⟩
  exact hends.shaped ((shaped_of_after hp).atEnd leftover)

/-- A run comes to the result of the pass in which it ends. -/
theorem outcome_run_eq_ok_iff_final (nested : Nested α) (rounding : Rounding) (env : Env)
    (source : String) (reading : Reading α) (v : Value) (vs vs' : Variables) :
    (run nested rounding env source reading).outcome vs = (.ok v, vs') ↔
      ∃ q, Final nested rounding env source reading vs q vs' ∧ q.frame.result = .ok v := by
  rw [outcome_run_eq_ok]
  unfold Final
  constructor
  · rintro ⟨p, mid, hp, hstop⟩
    -- A fault at the end of the text would be the outcome of the run.
    cases hending : reading.ending with
    | fault fault =>
        rw [hending] at hstop
        cases hstop
    | finished leftover =>
        rw [hending] at hstop
        rcases (outcome_finish_eq_ok _ _ _ _ _).mp hstop with ⟨q, hends, houter, hmissing, hv⟩
        exact ⟨q, ⟨leftover, p, mid, rfl, hp, hends, houter, hmissing⟩, hv⟩
  · rintro ⟨q, ⟨leftover, p, mid, hending, hp, hends, houter, hmissing⟩, hv⟩
    refine ⟨p, mid, hp, ?_⟩
    rw [hending]
    exact (outcome_finish_eq_ok _ _ _ _ _).mpr ⟨q, hends, houter, hmissing, hv⟩

end Pass

end Reckon
