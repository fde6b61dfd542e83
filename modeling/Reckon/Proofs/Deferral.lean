import Reckon.Proofs.Closing
import Reckon.Proofs.Regrouping

/-!
# Junctions that Wait

A junction that takes the right operand of another operator may find that it
cannot be applied yet. It then stays on the stack with both of its operands, and
with the operator whose operand it took below it. One expects it to be applied
later, or the statement to fail.

It is never applied, because of what stands below it: an operator that no boolean
fits on its right. The junction comes to a boolean, so that the operands of that
operator would not fit, and the one regrouping that there is has been used for
the junction. So whatever comes to stand on the junction, it goes on waiting, and
a statement that ends with it fails.

This module says what can wait on a stack, and what becomes of it when another
value comes. It is an invariant of the whole pass: a frame in which nothing was
regrouped holds one entry at most, and one in which a regrouping left more than
that holds a junction that waits.

## Main definitions

* `Operator.RefusesBool`: An operator that no boolean fits on its right.
* `Stack.pending`: What waits below the value on top.
* `Stack.Deferred`: A junction that waits, with what waits below it.
* `Pass.Waits`: In every frame nothing waits but a junction.
* `Pass.Sound`: The invariants of a run.

## Theorems

* `Operator.apply_of_defer`: What a junction that waits makes of other operands.
* `Stack.collapse_pushed_deferred`: An operator that is read on a junction that waits.
* `Pass.pending_of_place`: A value that is put on a junction that waits.
* `Pass.feed_waits`: A token leaves nothing waiting but junctions.
* `Pass.after_sound`: A run keeps its invariants.
-/

namespace Reckon

open Eval

namespace Operator

/-- An operator that no boolean fits on its right. -/
def RefusesBool (op : Operator) (rounding : Rounding) : Prop :=
  ∀ left b, ∃ l r, op.apply left (.bool b) rounding = .cast l r

/-- If any operands do not fit an operator, then no boolean fits on its right. -/
theorem refusesBool_of_cast {op : Operator} {left right l r : Value} {rounding : Rounding}
    (hand : op ≠ .and) (h : op.apply left right rounding = .cast l r) :
    op.RefusesBool rounding := by
  have hor : op ≠ .or := by
    rintro rfl
    exact Operation.disjoin_ne_cast left right l r h
  have hcoalesce : op ≠ .coalesce := by
    rintro rfl
    exact Operation.coalesce_ne_cast left right l r h
  intro left' b
  rcases apply_shape op rounding hand hor hcoalesce with
    ⟨operate, hoperate, happly⟩ | ⟨operate, happly⟩ | hsettles
  · -- A boolean is no number.
    refine ⟨left'.normalize, .bool b, ?_⟩
    rw [happly, Operation.onDecimals]
    cases left'.normalize <;> rfl
  · -- Nor has it bits.
    refine ⟨left', .bool b, ?_⟩
    rw [happly, Operation.onBits]
    cases left'.bits? <;> rfl
  · have hs := hsettles left right
    rw [h] at hs
    exact hs.elim

/-- Both junctions take booleans. -/
theorem RefusesBool.ne_junction {op : Operator} {rounding : Rounding}
    (h : op.RefusesBool rounding) : op ≠ .and ∧ op ≠ .or := by
  rcases h (.bool true) true with ⟨l, r, hcast⟩
  constructor
  · rintro rfl
    cases hcast
  · rintro rfl
    cases hcast

/-- A junction that waits is put back as it was by any right operand, unless it
    comes to a boolean with it. -/
theorem apply_of_defer {j : Operator} {l x l' x' : Value} {rounding : Rounding}
    (h : j.apply l x rounding = .defer l' x') :
    l' = l ∧ x' = x ∧ (j = .and ∨ j = .or) ∧
      ∀ y, (∃ b, j.apply l y rounding = .push (.bool b)) ∨
        j.apply l y rounding = .defer l y := by
  -- A junction waits when its left operand leaves the matter open, and then only a boolean
  -- on the right decides it.
  rcases j.eq_junction_of_apply_eq_defer _ _ _ _ _ h with rfl | rfl
  · have hconjoin : Operation.conjoin l x = .defer l' x' := h
    unfold Operation.conjoin at hconjoin
    split at hconjoin
    case h_1 | h_3 | h_4 => cases hconjoin
    case h_2 =>
      cases hconjoin
      refine ⟨rfl, rfl, Or.inl rfl, fun y => ?_⟩
      cases y with
      | bool b => exact Or.inl ⟨true && b, rfl⟩
      | _ => exact Or.inr rfl
  · have hdisjoin : Operation.disjoin l x = .defer l' x' := h
    unfold Operation.disjoin at hdisjoin
    split at hdisjoin
    · cases hdisjoin
    · cases hdisjoin
      refine ⟨rfl, rfl, Or.inr rfl, fun y => ?_⟩
      have hagain : (∃ b, Operation.disjoin l y = .push (.bool b)) ∨
          Operation.disjoin l y = .defer l y := by
        unfold Operation.disjoin
        split
        · exact Or.inl ⟨_, rfl⟩
        · exact Or.inr rfl
      exact hagain

end Operator

namespace Stack

/-- What waits on a stack: what is below the value on top, or everything if no
    value is. -/
def pending : Stack → Stack
  | .value _ :: below => below
  | s => s

theorem length_pending_le (s : Stack) : s.pending.length ≤ s.length := by
  rcases s with _ | ⟨v | o, below⟩
  · exact Nat.le_refl _
  · exact Nat.le_succ _
  · exact Nat.le_refl _

/-- A junction that waits with its left operand, above an operator and the left
    operand of that one. It waits for a right operand with which it comes to a
    boolean, and no boolean fits the operator below. -/
inductive Deferred (rounding : Rounding) : Stack → Prop
  | junction {j op : Operator} {l left : Value} : j = .and ∨ j = .or →
      (∀ y, (∃ b, j.apply l y rounding = .push (.bool b)) ∨ j.apply l y rounding = .defer l y) →
      op.RefusesBool rounding → Deferred rounding [.op j, .value l, .op op, .value left]

variable {rounding : Rounding}

theorem Deferred.pending_eq {s : Stack} (h : Deferred rounding s) : pending s = s := by
  cases h
  rfl

theorem Deferred.length_eq {s : Stack} (h : Deferred rounding s) : s.length = 4 := by
  cases h
  rfl

theorem Deferred.ne_nil {s : Stack} (h : Deferred rounding s) : s ≠ [] := by
  cases h
  exact List.cons_ne_nil _ _

/-- A value on a junction that waits: either it goes on waiting, or what is below
    it is left with operands that do not fit. -/
theorem collapse_deferred {s : Stack} (h : Deferred rounding s) (x : Value) :
    collapse rounding (.value x :: s) = .ok (.settled (.value x :: s)) ∨
      ∃ op l r below, collapse rounding (.value x :: s) = .ok (.stuck op l r below) := by
  cases h with
  | @junction j op l left hj hagain hrefuses =>
      have htriple : triple? (.value x :: [.op j, .value l, .op op, .value left]) =
          some (j, l, x, [.op op, .value left]) := rfl
      rw [collapse_of_triple? rounding htriple]
      rcases hagain x with ⟨b, happly⟩ | happly
      · -- The boolean that the junction comes to does not fit the operator below.
        right
        have htriple' : triple? [.value (.bool b), .op op, .value left] =
            some (op, left, .bool b, []) := rfl
        rcases hrefuses left b with ⟨l', r', hcast⟩
        refine ⟨op, l', r', [], ?_⟩
        simp only [happly]
        rw [collapse_of_triple? rounding htriple']
        simp only [hcast]
      · left
        simp only [happly]

/-- What may become of an operator and its operands that were put on a junction
    that waits. -/
def LeavesDeferred (o : Operator) (s : Stack) : Except Cause Collapsed → Prop
  | .ok (.settled s') => (∃ x, s' = .value x :: s) ∨ o = .coalesce ∧ ∃ w, s' = [.value w]
  | _ => True

/-- An operator that is read on a junction that waits leaves it waiting, unless
    it clears the stack, or some operands do not fit. -/
theorem collapse_pushed_deferred {s : Stack} (h : Deferred rounding s) {o : Operator}
    (hand : o ≠ .and) (hor : o ≠ .or) (v u : Value) :
    LeavesDeferred o s (collapse rounding (.op o :: .value v :: .value u :: s)) := by
  have htriple : triple? (.op o :: .value v :: .value u :: s) = some (o, u, v, s) := rfl
  rw [collapse_of_triple? rounding htriple]
  cases happly : o.apply u v rounding with
  | push x =>
      rcases collapse_deferred h x with hx | ⟨op, l, r, below, hx⟩
      · simp only [hx]
        exact Or.inl ⟨x, rfl⟩
      · simp only [hx]
        trivial
  | replace w => exact Or.inr ⟨Operator.eq_coalesce_of_apply_eq_replace hand hor happly, w, rfl⟩
  | defer l r =>
      -- No other operator waits.
      rcases o.eq_junction_of_apply_eq_defer _ _ _ _ _ happly with rfl | rfl
      · exact absurd rfl hand
      · exact absurd rfl hor
  | cast l r => trivial
  | fail cause => trivial

/-- What may become of two operators with their operands, the lower one of which
    no boolean fits. -/
theorem collapse_regrouped_deferred {op next : Operator}
    (hrefuses : op.RefusesBool rounding) (left right v : Value) {s : Stack}
    (h : collapse rounding [.op next, .value v, .value right, .op op, .value left] =
      .ok (.settled s)) :
    s.pending = [] ∨ Deferred rounding s.pending := by
  have htriple : triple? [.op next, .value v, .value right, .op op, .value left] =
      some (next, right, v, [.op op, .value left]) := rfl
  rw [collapse_of_triple? rounding htriple] at h
  -- What the operator on the right comes to is combined with the left operand below.
  cases happly : next.apply right v rounding with
  | push x =>
      simp only [happly] at h
      have htriple' : triple? [.value x, .op op, .value left] = some (op, left, x, []) := rfl
      rw [collapse_of_triple rounding htriple'] at h
      cases happly' : op.apply left x rounding with
      | push y =>
          simp only [happly'] at h
          cases h
          exact Or.inl rfl
      | replace w =>
          simp only [happly'] at h
          cases h
          exact Or.inl rfl
      | defer l r =>
          rcases op.eq_junction_of_apply_eq_defer _ _ _ _ _ happly' with rfl | rfl
          · exact absurd rfl hrefuses.ne_junction.1
          · exact absurd rfl hrefuses.ne_junction.2
      | cast l r =>
          simp only [happly'] at h
          cases h
      | fail cause =>
          simp only [happly'] at h
          cases h
  | replace w =>
      simp only [happly] at h
      cases h
      exact Or.inl rfl
  | defer l r =>
      simp only [happly] at h
      cases h
      rcases Operator.apply_of_defer happly with ⟨rfl, rfl, hj, hagain⟩
      exact Or.inr (.junction hj hagain hrefuses)
  | cast l r =>
      simp only [happly] at h
      cases h
  | fail cause =>
      simp only [happly] at h
      cases h

end Stack

/-- A frame in which nothing waits but a junction. -/
def Frame.Waits (rounding : Rounding) (f : Frame) : Prop :=
  f.stack.pending = [] ∨ Stack.Deferred rounding f.stack.pending

/-- The operator whose operands do not fit, while a regrouping goes on. -/
def Expecting.misfit? : Expecting → Option Operator
  | .regroup op _ _ | .regroupRight op _ _ _ => some op
  | _ => none

/-- The operator whose operands do not fit, where a value completes a regrouping. -/
def Slot.misfit? : Slot → Option Operator
  | .regrouped op _ _ _ => some op
  | _ => none

namespace Pass

variable {α : Type} {rounding : Rounding}

/-- In every frame nothing waits but a junction, and no boolean fits the operators
    whose operands are being regrouped. -/
structure Waits (rounding : Rounding) (p : Pass) : Prop where
  frame : p.frame.Waits rounding
  expecting : ∀ op, p.expecting.misfit? = some op → op.RefusesBool rounding
  outer : ∀ a ∈ p.outer, a.frame.Waits rounding ∧
    ∀ op, a.slot.misfit? = some op → op.RefusesBool rounding

theorem waits_start : start.Waits rounding :=
  ⟨Or.inl rfl, nofun, fun _ ha => absurd ha List.not_mem_nil⟩

/-- A pass that takes an operand, and the place for it. -/
theorem Waits.ready {p : Pass} {slot : Slot} (h : p.Waits rounding)
    (hslot : p.slot? = some slot) :
    p.ready.frame.Waits rounding ∧ (∀ op, slot.misfit? = some op → op.RefusesBool rounding) ∧
      ∀ a ∈ p.ready.outer, a.frame.Waits rounding ∧
        ∀ op, a.slot.misfit? = some op → op.RefusesBool rounding := by
  unfold Pass.ready
  unfold slot? at hslot
  -- A frame that is made ready has either nothing waiting or what it had before.
  split at hslot
  next hexp =>
    simp only [hexp]
    split at hslot
    · cases hslot
    · cases hslot
      exact ⟨h.frame, nofun, h.outer⟩
  next hexp =>
    simp only [hexp]
    cases hslot
    exact ⟨Or.inl rfl, nofun, h.outer⟩
  next op hexp =>
    simp only [hexp]
    cases hslot
    exact ⟨h.frame, nofun, h.outer⟩
  next op left right next hexp =>
    simp only [hexp]
    cases hslot
    have hexpecting := h.expecting
    rw [hexp] at hexpecting
    exact ⟨h.frame, hexpecting, h.outer⟩
  next => cases hslot

theorem Turn.waits {p q : Pass} (ht : Turn p q) (h : p.Waits rounding) : q.Waits rounding := by
  cases ht with
  | stay => exact h
  | restart _ => exact ⟨Or.inl rfl, nofun, h.outer⟩
  | @drop v below _ hst =>
      -- What waits below the value waits when it is gone.
      have hframe := h.frame
      rw [Frame.Waits, hst] at hframe
      refine ⟨?_, nofun, h.outer⟩
      rcases hframe with hnil | hdeferred
      · have hbelow : below = [] := hnil
        subst hbelow
        exact Or.inl rfl
      · have hbelow : Stack.Deferred rounding below := hdeferred
        have hpending : Stack.Deferred rounding below.pending := by
          rw [hbelow.pending_eq]
          exact hbelow
        exact Or.inr hpending
  | await _ _ _ => exact ⟨h.frame, nofun, h.outer⟩
  | skip _ _ => exact ⟨h.frame, nofun, h.outer⟩
  | skipBranch _ _ => exact ⟨Or.inl rfl, nofun, h.outer⟩
  | nest _ => exact ⟨h.frame, nofun, h.outer⟩
  | resume _ => exact ⟨h.frame, nofun, h.outer⟩
  | regroup hexp _ =>
      have hexpecting := h.expecting
      rw [hexp] at hexpecting
      exact ⟨h.frame, hexpecting, h.outer⟩
  | target hslot =>
      rcases h.ready hslot with ⟨hframe, hmisfit, houter⟩
      refine ⟨Or.inl rfl, nofun, fun a ha => ?_⟩
      rcases List.mem_cons.mp ha with rfl | ha
      · exact ⟨hframe, hmisfit⟩
      · exact houter a ha

/-- Working off a stack leaves what it comes down to, or operands that do not fit
    if they may be regrouped. -/
theorem reduce_eq_ok {regrouping : Bool} {p q : Pass} {s : Stack}
    (h : p.reduce rounding regrouping s = .ok q) :
    (∃ s', s.collapse rounding = .ok (.settled s') ∧ q = p.withStack s') ∨
      ∃ op l r below, s.collapse rounding = .ok (.stuck op l r below) ∧ regrouping = false ∧
        p.regroupings < maxRegroupings ∧
        q = { p.withStack below with expecting := .regroup op l r } := by
  unfold reduce at h
  -- Reducing settles the stack, or it is stuck for the first time and may regroup.
  split at h
  · cases h
  next s' hs =>
    cases h
    exact Or.inl ⟨s', hs, rfl⟩
  next op l r below hs =>
    split at h
    · cases h
    next hreg =>
      cases h
      simp only [Bool.or_eq_true, decide_eq_true_eq, not_or, Nat.not_le, Bool.not_eq_true] at hreg
      exact Or.inr ⟨op, l, r, below, hs, hreg.1, hreg.2, rfl⟩

/-- A value that is put on a junction that waits leaves it waiting, unless `or`
    clears the stack. -/
theorem pending_of_place {p q : Pass} {slot : Slot} {v : Value}
    (hshaped : p.frame.Shaped p.regroupings) (hfits : slot.Fits p.frame)
    (hdeferred : Stack.Deferred rounding p.frame.stack.pending)
    (h : p.place rounding slot v = .ok q) :
    q.expecting = .statement ∧ (q.frame.stack.pending = p.frame.stack.pending ∨
      slot = .right .coalesce ∧ ∃ w, q.frame.stack = [.value w]) := by
  cases slot with
  | first =>
      -- Below an operand that comes first there is an operator on top.
      cases h
      refine ⟨rfl, Or.inl ?_⟩
      rcases hst : p.frame.stack with _ | ⟨u | o, below⟩
      · rfl
      · have heven : p.frame.stack.length % 2 = 0 := hfits
        have hlen := hdeferred.length_eq
        rw [hst] at hlen heven
        simp only [Stack.pending, List.length_cons] at hlen heven
        omega
      · simp only [withStack]
        rfl
  | right op =>
      rcases hfits with ⟨hodd, hand, hor⟩
      rcases hshaped.alternates.exists_value hodd with ⟨u, below, hst, _, _⟩
      rw [hst] at hdeferred
      have hbelow : Stack.Deferred rounding below := hdeferred
      -- The regrouping that left the junction waiting was the only one there may be.
      have hspent : maxRegroupings ≤ p.regroupings := by
        have hlen := hshaped.length_le
        have hspent := hshaped.spent
        rw [hst, List.length_cons, hbelow.length_eq] at hlen
        simp only [maxRegroupings]
        omega
      have hleaves := Stack.collapse_pushed_deferred hbelow hand hor v u
      rcases reduce_eq_ok h with ⟨s', hs, rfl⟩ | ⟨_, _, _, _, _, _, hlt, _⟩
      · rw [hst] at hs
        rw [hs] at hleaves
        rw [hst]
        refine ⟨rfl, ?_⟩
        rcases hleaves with ⟨x, rfl⟩ | ⟨rfl, w, rfl⟩
        · exact Or.inl rfl
        · exact Or.inr ⟨rfl, w, rfl⟩
      · omega
  | regrouped op left right next =>
      -- Operands are only regrouped on an empty stack.
      rw [hfits.1] at hdeferred
      exact absurd rfl hdeferred.ne_nil

/-- Putting a value in its place leaves nothing waiting but a junction. -/
theorem waits_of_place {p q : Pass} {slot : Slot} {v : Value}
    (hshaped : p.frame.Shaped p.regroupings) (hfits : slot.Fits p.frame)
    (hwaits : p.frame.Waits rounding)
    (hmisfit : ∀ op, slot.misfit? = some op → op.RefusesBool rounding)
    (h : p.place rounding slot v = .ok q) :
    q.frame.Waits rounding ∧ ∀ op, q.expecting.misfit? = some op → op.RefusesBool rounding := by
  rcases hwaits with hnil | hdeferred
  · cases slot with
    | first =>
        cases h
        refine ⟨Or.inl ?_, fun _ hop => by cases hop⟩
        rcases hst : p.frame.stack with _ | ⟨u | o, below⟩
        · simp only [withStack]
          rfl
        · have heven : p.frame.stack.length % 2 = 0 := hfits
          rw [hst] at hnil heven
          have hbelow : below = [] := hnil
          rw [hbelow, List.length_singleton] at heven
          cases heven
        · rw [hst] at hnil
          cases hnil
    | right op =>
        rcases hfits with ⟨hodd, hand, hor⟩
        rcases hshaped.alternates.exists_value hodd with ⟨u, below, hst, _, _⟩
        rw [hst] at hnil
        have hbelow : below = [] := hnil
        subst hbelow
        -- One value is on the stack, and the operator has it for its left operand.
        have htriple : Stack.triple? (.op op :: .value v :: p.frame.stack) =
            some (op, u, v, []) := by
          rw [hst]
          rfl
        have hcollapse := Stack.collapse_of_triple rounding htriple
        rcases reduce_eq_ok h with ⟨s', hs, rfl⟩ | ⟨op', l, r, below, hs, _, _, rfl⟩
        · rw [hs] at hcollapse
          refine ⟨Or.inl ?_, fun _ hop => by cases hop⟩
          cases happly : op.apply u v rounding with
          | push w =>
              rw [happly] at hcollapse
              cases hcollapse
              rfl
          | replace w =>
              rw [happly] at hcollapse
              cases hcollapse
              rfl
          | defer l r =>
              rcases op.eq_junction_of_apply_eq_defer _ _ _ _ _ happly with rfl | rfl
              · exact absurd rfl hand
              · exact absurd rfl hor
          | cast l r =>
              rw [happly] at hcollapse
              cases hcollapse
          | fail cause =>
              rw [happly] at hcollapse
              cases hcollapse
        · rw [hs] at hcollapse
          cases happly : op.apply u v rounding with
          | cast l' r' =>
              rw [happly] at hcollapse
              cases hcollapse
              refine ⟨Or.inl rfl, fun op' hop' => ?_⟩
              cases hop'
              exact Operator.refusesBool_of_cast hand happly
          | _ =>
              rw [happly] at hcollapse
              cases hcollapse
    | regrouped op left right next =>
        rcases reduce_eq_ok (place_regrouped_eq_ok h).2 with
          ⟨s', hs, rfl⟩ | ⟨_, _, _, _, _, hreg, _, _⟩
        · simp only [hfits.1] at hs
          exact ⟨Stack.collapse_regrouped_deferred (hmisfit op rfl) left right v hs,
            fun _ hop => by cases hop⟩
        · cases hreg
  · rcases pending_of_place hshaped hfits hdeferred h with ⟨hexp, hkept | ⟨_, w, hw⟩⟩
    · refine ⟨Or.inr (hkept ▸ hdeferred), fun op hop => ?_⟩
      rw [hexp] at hop
      cases hop
    · refine ⟨Or.inl ?_, fun op hop => ?_⟩
      · rw [hw]
        rfl
      · rw [hexp] at hop
        cases hop

/-- Handing a value to the frame around it leaves the pass in shape, with nothing
    waiting but junctions. -/
theorem waits_of_handed {frame : Frame} {expecting : Expecting} {a : Assignment}
    {outer : List Assignment} {regroupings : Nat} {closed : Bool} {v : Value} {q : Pass}
    (hshaped : Shaped ⟨frame, expecting, a :: outer, regroupings⟩)
    (hwaits : Waits rounding ⟨frame, expecting, a :: outer, regroupings⟩)
    (h : Pass.place rounding ⟨{ a.frame with closed := closed }, .statement, outer, regroupings⟩
      a.slot v = .ok q) : q.Shaped ∧ q.Waits rounding ∧ q.outer = outer := by
  rcases hshaped.outer a List.mem_cons_self with ⟨hframe, hfits⟩
  rcases hwaits.outer a List.mem_cons_self with ⟨hframe', hmisfit⟩
  have houter : q.outer = outer := (placed_of_place h).outer_eq
  have hrest : ∀ b ∈ outer, b.frame.Shaped regroupings ∧ b.slot.Fits b.frame :=
    fun b hb => hshaped.outer b (List.mem_cons_of_mem _ hb)
  have hshaped' := shaped_of_place hframe.marked hfits.marked hrest h
  rcases waits_of_place hframe.marked hfits.marked hframe' hmisfit h with ⟨hq, hexp⟩
  refine ⟨hshaped', ⟨hq, hexp, ?_⟩, houter⟩
  rw [houter]
  exact fun b hb => hwaits.outer b (List.mem_cons_of_mem _ hb)

theorem settle_waits (frame : Frame) (expecting : Expecting) (regroupings : Nat)
    (outer : List Assignment) (hshaped : Shaped ⟨frame, expecting, outer, regroupings⟩)
    (hwaits : Waits rounding ⟨frame, expecting, outer, regroupings⟩) :
    (settle rounding frame expecting regroupings outer).Ensures (Waits rounding)
      fun _ => True := by
  induction outer generalizing frame expecting regroupings with
  | nil =>
      unfold settle
      split
      · split
        · exact ensures_fail _ trivial
        · exact ensures_pure _ ⟨hwaits.frame, nofun, hwaits.outer⟩
      · exact ensures_pure _ hwaits
  | cons a outer ih =>
      unfold settle
      split
      · refine handed_ensures frame a.target _ _ (ensures_true _)
          (fun v => ensures_ofExcept _ (fun q hq => waits_of_handed hshaped hwaits hq)
            fun _ _ => trivial) fun q hq => ?_
        rcases hq with ⟨hq, hq', rfl⟩
        exact ih _ _ _ hq hq'
      · exact ensures_pure _ hwaits

/-- A token leaves nothing waiting but junctions. -/
theorem feed_waits (p : Pass) (kind : Token.Kind α) (shown : String)
    (value : Operand α → Eval Value) (hshaped : p.Shaped) (hwaits : p.Waits rounding) :
    (p.feed rounding kind shown value).Ensures (Waits rounding) fun _ => True := by
  have hcases := feed_cases rounding p kind shown value
  generalize p.feed rounding kind shown value = m at hcases
  cases hcases with
  | turn ht => exact ensures_pure _ (ht.waits hwaits)
  | refuse _ => exact ensures_fail _ trivial
  | take hslot _ =>
      rcases shaped_ready hshaped hslot with ⟨hframe, hfits, houter⟩
      rcases hwaits.ready hslot with ⟨hframe', hmisfit, houter'⟩
      refine ensures_bind (ensures_true _) fun v _ => ?_
      refine ensures_bind (ensures_ofExcept _ (fun q hq => hq) fun _ _ => trivial) fun q hq => ?_
      rcases waits_of_place hframe hfits hframe' hmisfit hq with ⟨hq', hexp⟩
      refine settle_waits _ _ _ _ (shaped_of_place hframe hfits houter hq) ⟨hq', hexp, ?_⟩
      rw [(placed_of_place hq).outer_eq]
      exact houter'
  | close _ _ =>
      exact settle_waits _ _ _ _ ⟨hshaped.frame.marked, trivial, hshaped.outer⟩
        ⟨hwaits.frame, nofun, hwaits.outer⟩

/-- Tokens keep every frame in shape, leave nothing waiting but junctions, and
    keep the order in which statements begin. -/
structure Sound (rounding : Rounding) (p : Pass) : Prop where
  shaped : p.Shaped
  waits : p.Waits rounding
  begun : p.Begun

theorem sound_start : start.Sound rounding :=
  ⟨shaped_start, waits_start, begun_start⟩

theorem step_sound (nested : Nested α) (env : Env) (source : String) (p : Pass) (t : Token α)
    (h : p.Sound rounding) :
    (p.step nested rounding env source t).Ensures (Sound rounding) fun _ => True := by
  have hshaped := feed_ensures (E := fun _ => True) (fun _ _ => trivial) rounding p t.kind
    (t.map nested.text).text (t.value nested env source) h.shaped fun _ _ => ensures_true _
  have hwaits := feed_waits p t.kind (t.map nested.text).text (t.value nested env source) h.shaped
    h.waits
  have hbegun := feed_begun rounding p t.kind (t.map nested.text).text (t.value nested env source)
    h.begun
  have hall := ensures_and hshaped (ensures_and hwaits hbegun)
  exact ensures_mapError (hall.mono fun q hq => ⟨hq.1, hq.2.1, hq.2.2⟩) fun _ _ => trivial

/-- A run leaves nothing waiting but junctions. -/
theorem after_sound (nested : Nested α) (env : Env) (source : String) (p : Pass)
    (ts : List (Token α)) (h : p.Sound rounding) :
    (after nested rounding env source p ts).Ensures (Sound rounding) fun _ => True :=
  after_invariant nested rounding env source p ts h fun t _ q hq =>
    step_sound nested env source q t hq

end Pass

end Reckon
