import Reckon.Proofs.Deferral
import Reckon.Proofs.ShortCircuit

/-!
# What Becomes of a Junction that Waits

A junction that waits with its operands is never applied, and a statement that
ends with it fails. So in a run that comes to a value it has to go some other way.
There are two: a false condition clears the stack, and so does `or`, whose value
takes the place of everything that is there. `5 - '' || false ? 1 : 7` comes to
seven, and `5 - '' || 3 or 4` to three, as if the subtraction had never been
written.

`Pass.deferred_until` says that there is no third way: until then the junction
waits, unchanged, after every token.

A frame is known by its depth, the number of assignments around it. What waits at
some depth does so whatever goes on in the frames inside it, and these end before
the frame itself can.

## Main definitions

* `Pass.Defers`: What waits in the frame of some depth.
* `Pass.Coalesces`: The frame of some depth awaits the right operand of `or`.
* `Pass.Drops`: What waits is dropped by what comes next.

## Theorems

* `Pass.settle_defers`: Handing values outward leaves what waits.
* `Pass.step_defers`: Tokens that leave what waits.
* `Pass.finish_defers`: No result comes of what waits.
* `Pass.drops_of_outcome`: What waits on the way to a value is dropped.
* `Pass.deferred_until`: Until when a junction waits in a run that comes to a value.
-/

namespace Reckon

open Eval

/-- What waits in a frame is a junction. -/
theorem Frame.Waits.deferred {rounding : Rounding} {f : Frame} (h : f.Waits rounding)
    (hs : f.stack.pending ≠ []) : Stack.Deferred rounding f.stack.pending :=
  h.resolve_left hs

/-- A frame in which something waits has no value to be stored. -/
theorem Frame.assigned_ensures_false {f : Frame} (hs : f.stack.pending ≠ []) (target : String) :
    (ofExcept (f.assigned target)).Ensures (fun _ => False) fun _ => True := by
  refine ensures_ofExcept _ (fun v hv => ?_) fun _ _ => trivial
  rw [Pass.stack_of_assigned hv] at hs
  exact hs rfl

/-- The assignments around a frame, counted from the outside. -/
theorem getElem?_reverse_cons {a b : Assignment} {outer : List Assignment} {depth : Nat} :
    (a :: outer).reverse[depth]? = some b ↔
      depth = outer.length ∧ b = a ∨ outer.reverse[depth]? = some b := by
  rw [List.reverse_cons]
  -- Counted from the outside, the innermost assignment is the last one.
  rcases Nat.lt_trichotomy depth outer.length with hlt | heq | hgt
  · rw [List.getElem?_append_left (by rw [List.length_reverse]; exact hlt)]
    constructor
    · exact Or.inr
    · rintro (⟨heq, _⟩ | h)
      · omega
      · exact h
  · have hnone : outer.reverse[depth]? = none :=
      List.getElem?_eq_none (by rw [List.length_reverse]; omega)
    rw [List.getElem?_append_right (by rw [List.length_reverse]; omega), hnone, heq,
      List.length_reverse, Nat.sub_self]
    simp only [List.getElem?_cons_zero, Option.some.injEq, true_and, reduceCtorEq, or_false]
    exact eq_comm
  · have hnone : outer.reverse[depth]? = none :=
      List.getElem?_eq_none (by rw [List.length_reverse]; omega)
    have hnone' : (outer.reverse ++ [a])[depth]? = none :=
      List.getElem?_eq_none (by simp only [List.length_append, List.length_reverse,
        List.length_singleton]; omega)
    rw [hnone, hnone']
    constructor
    · nofun
    · rintro (⟨heq, _⟩ | h)
      · omega
      · cases h

namespace Pass

variable {α : Type} {rounding : Rounding}

/-- What waits in the frame that has `depth` assignments around it. -/
def Defers (p : Pass) (depth : Nat) (s : Stack) : Prop :=
  depth = p.outer.length ∧ p.frame.stack.pending = s ∨
    ∃ a, p.outer.reverse[depth]? = some a ∧ a.frame.stack.pending = s

/-- The frame that has `depth` assignments around it awaits the right operand of
    `or`. -/
def Coalesces (p : Pass) (depth : Nat) : Prop :=
  depth = p.outer.length ∧ p.expecting = .right .coalesce ∨
    ∃ a, p.outer.reverse[depth]? = some a ∧ a.slot = .right .coalesce

/-- What waits in a pass is a junction. -/
theorem Defers.deferred {p : Pass} {depth : Nat} {s : Stack} (h : p.Defers depth s)
    (hwaits : p.Waits rounding) (hs : s ≠ []) : Stack.Deferred rounding s := by
  rcases h with ⟨_, rfl⟩ | ⟨a, ha, rfl⟩
  · exact hwaits.frame.deferred hs
  · have hmem : a ∈ p.outer := List.mem_reverse.mp (List.mem_of_getElem? ha)
    exact (hwaits.outer a hmem).1.deferred hs

/-- Between two statements nothing waits. -/
theorem Defers.ne_another {p : Pass} {depth : Nat} {s : Stack} (h : p.Defers depth s)
    (hsound : p.Sound rounding) (hs : s ≠ []) : p.expecting ≠ .another := by
  intro hexp
  rcases hsound.begun.another hexp with ⟨houter, hlen⟩
  have hdeferred := h.deferred hsound.waits hs
  rcases h with ⟨_, hpending⟩ | ⟨a, ha, _⟩
  · -- A junction waits with four entries, and one at most is left.
    have hle := p.frame.stack.length_pending_le
    rw [hpending, hdeferred.length_eq] at hle
    omega
  · rw [houter] at ha
    cases ha

/-- Handing a value to the frame around it leaves what waits, unless that frame
    awaits the right operand of `or`. -/
theorem defers_of_handed {frame : Frame} {expecting : Expecting} {a : Assignment}
    {outer : List Assignment} {regroupings : Nat} {closed : Bool} {v : Value} {q : Pass}
    {depth : Nat} {s : Stack} (hs : s ≠ [])
    (hshaped : Shaped ⟨frame, expecting, a :: outer, regroupings⟩)
    (hwaits : Waits rounding ⟨frame, expecting, a :: outer, regroupings⟩) {b : Assignment}
    (hb : (a :: outer).reverse[depth]? = some b) (hpending : b.frame.stack.pending = s)
    (hslot : b.slot ≠ .right .coalesce)
    (h : Pass.place rounding ⟨{ a.frame with closed := closed }, .statement, outer, regroupings⟩
      a.slot v = .ok q) : q.Defers depth s := by
  have houter : q.outer = outer := (placed_of_place h).outer_eq
  rcases getElem?_reverse_cons.mp hb with ⟨hdepth, rfl⟩ | hb
  · -- The value comes to the frame in which the junction waits.
    rcases hshaped.outer b List.mem_cons_self with ⟨hframe, hfits⟩
    have hdeferred := (hwaits.outer b List.mem_cons_self).1.deferred (hpending ▸ hs)
    rcases (pending_of_place hframe.marked hfits.marked hdeferred h).2 with hkept | ⟨hor, _⟩
    · exact Or.inl ⟨by rw [houter, hdepth], hkept.trans hpending⟩
    · exact absurd hor hslot
  · exact Or.inr ⟨b, by rw [houter]; exact hb, hpending⟩

/-- The same for what is done with the value of the innermost frame. If that is
    where the junction waits, there is no value to hand outward. -/
theorem handed_defers {β : Type} {R : β → Prop} {frame : Frame} {expecting : Expecting}
    {a : Assignment} {outer : List Assignment} {regroupings : Nat} {closed : Bool} {depth : Nat}
    {s : Stack} (k : Pass → Eval β) (hs : s ≠ [])
    (hshaped : Shaped ⟨frame, expecting, a :: outer, regroupings⟩)
    (hwaits : Waits rounding ⟨frame, expecting, a :: outer, regroupings⟩)
    (h : Defers ⟨frame, expecting, a :: outer, regroupings⟩ depth s)
    (hslot : ∀ b, (a :: outer).reverse[depth]? = some b → b.slot ≠ .right .coalesce)
    (hk : ∀ q : Pass, q.Shaped → q.Waits rounding → q.Defers depth s → q.outer = outer →
      (k q).Ensures R fun _ => True) :
    (do
      let v ← ofExcept (frame.assigned a.target)
      Eval.assign a.target v
      let p ← ofExcept (Pass.place rounding
        ⟨{ a.frame with closed := closed }, .statement, outer, regroupings⟩ a.slot v)
      k p).Ensures R fun _ => True := by
  -- A junction that waits in the frame about to close makes the assignment fail, so only
  -- one that waits further out is left to follow.
  rcases h with ⟨_, hpending⟩ | ⟨b, hb, hpending⟩
  · have hnone : frame.stack.pending ≠ [] := hpending ▸ hs
    exact ensures_bind (Frame.assigned_ensures_false hnone a.target) fun _ h => h.elim
  · refine handed_ensures frame a.target _ k (ensures_true _)
      (fun v => ensures_ofExcept _ (fun q hq => And.intro (waits_of_handed hshaped hwaits hq)
        (defers_of_handed hs hshaped hwaits hb hpending (hslot b hb) hq)) fun _ _ => trivial)
      fun q hq => ?_
    rcases hq with ⟨⟨hq, hq', houter⟩, hdefers⟩
    exact hk q hq hq' hdefers houter

/-- Handing values outward leaves what waits, unless its frame awaits the right
    operand of `or`. -/
theorem settle_defers {depth : Nat} {s : Stack} (hs : s ≠ []) (frame : Frame)
    (expecting : Expecting) (regroupings : Nat) (outer : List Assignment)
    (hshaped : Shaped ⟨frame, expecting, outer, regroupings⟩)
    (hwaits : Waits rounding ⟨frame, expecting, outer, regroupings⟩)
    (h : Defers ⟨frame, expecting, outer, regroupings⟩ depth s)
    (hslot : ∀ a, outer.reverse[depth]? = some a → a.slot ≠ .right .coalesce) :
    (settle rounding frame expecting regroupings outer).Ensures (Defers · depth s)
      fun _ => True := by
  -- The depth counts from the outside and stays, while the assignments inside close.
  induction outer generalizing frame expecting regroupings with
  | nil =>
      unfold settle
      split
      · split
        · exact ensures_fail _ trivial
        · exact ensures_pure _ h
      · exact ensures_pure _ h
  | cons a outer ih =>
      unfold settle
      split
      · refine handed_defers _ hs hshaped hwaits h hslot fun q hq hq' hdefers houter => ?_
        subst houter
        exact ih _ _ _ hq hq' hdefers fun b hb =>
          hslot b (getElem?_reverse_cons.mpr (Or.inr hb))
      · exact ensures_pure _ h

/-- Only after `or` is its right operand awaited. -/
theorem expecting_of_slot? {p : Pass} {op : Operator} (h : p.slot? = some (.right op)) :
    p.expecting = .right op := by
  unfold slot? at h
  split at h
  · split at h <;> cases h
  · cases h
  next hexp =>
    cases h
    exact hexp
  · cases h
  · cases h

/-- Only a condition makes a branch be skipped. -/
theorem operator_ensures_branch (p : Pass) {op : Operator} (hop : op ≠ .ternary) (v : Value)
    (below : Stack) :
    (p.operator rounding op v below).Ensures (fun q => q.expecting ≠ .elseBranch 0)
      fun _ => True := by
  -- Only the ternary sign can begin to skip a branch.
  cases op with
  | ternary => exact absurd rfl hop
  | and | or =>
      unfold operator
      cases v with
      | bool b =>
          simp only []
          split
          · exact ensures_pure _ Expecting.noConfusion
          · exact ensures_pure _ Expecting.noConfusion
      | _ => exact ensures_pure _ Expecting.noConfusion
  | endOfStatement =>
      refine (close_ensures_ended rounding p).mono fun q hq => ?_
      rcases hq with hexp | ⟨op, left, right, hexp⟩
      · rw [hexp]
        exact Expecting.noConfusion
      · rw [hexp]
        exact Expecting.noConfusion
  | _ => exact ensures_pure _ Expecting.noConfusion

/-- A token that makes the branch of a false condition be skipped is a question
    mark. -/
theorem feed_ensures_branch (p : Pass) {kind : Token.Kind α} (hkind : kind ≠ .operator .ternary)
    (shown : String) (value : Operand α → Eval Value) (hexp : p.expecting = .statement) {v : Value}
    {below : Stack} (hst : p.frame.stack = .value v :: below) :
    (p.feed rounding kind shown value).Ensures (fun q => q.expecting ≠ .elseBranch 0)
      fun _ => True := by
  simp only [feed, hexp]
  cases kind with
  | operator op =>
      simp only [feedStatement, hst]
      exact operator_ensures_branch p (fun hop => hkind (congrArg Token.Kind.operator hop)) v below
  | _ =>
      simp only [feedStatement, hst]
      exact ensures_fail _ trivial

/-- A token leaves what waits, unless it is a false condition there, or its frame
    awaits the right operand of `or`. -/
theorem feed_defers {p : Pass} {depth : Nat} {s : Stack} (hs : s ≠ []) (hsound : p.Sound rounding)
    (h : p.Defers depth s) (hor : ¬ p.Coalesces depth) (kind : Token.Kind α) (shown : String)
    (value : Operand α → Eval Value)
    (hcondition : ¬ (kind = .operator .ternary ∧ depth = p.outer.length ∧
      p.frame.stack = .value (.bool false) :: s)) :
    (p.feed rounding kind shown value).Ensures (Defers · depth s) fun _ => True := by
  have hne := h.ne_another hsound hs
  have hready := ready_of_ne_another hne
  have hslots : ∀ a, p.outer.reverse[depth]? = some a → a.slot ≠ .right .coalesce :=
    fun a ha hslot => hor (Or.inr ⟨a, ha, hslot⟩)
  have hdeferred := h.deferred hsound.waits hs
  have hbranch : kind ≠ .operator .ternary → p.expecting = .statement →
      ∀ {v : Value} {below : Stack}, p.frame.stack = .value v :: below →
        (p.feed rounding kind shown value).Ensures (fun q => q.expecting ≠ .elseBranch 0)
          fun _ => True :=
    fun hkind hexp _ _ hst => feed_ensures_branch p hkind shown value hexp hst
  have hcases := feed_cases rounding p kind shown value
  generalize p.feed rounding kind shown value = m at hcases hbranch
  cases hcases with
  | refuse _ => exact ensures_fail _ trivial
  | turn ht =>
      refine ensures_pure _ ?_
      cases ht with
      | stay => exact h
      | restart hexp => exact absurd hexp hne
      | @drop v below _ hst =>
          rcases h with ⟨hdepth, hpending⟩ | houter
          · -- What waits below the value waits when it is gone.
            rw [hst] at hpending
            have hbelow : below = s := hpending
            refine Or.inl ⟨hdepth, ?_⟩
            rw [← hbelow] at hdeferred ⊢
            exact hdeferred.pending_eq
          · exact Or.inr houter
      | await _ _ _ => exact h
      | skip _ _ => exact h
      | @skipBranch below hexp hst =>
          rcases h with ⟨hdepth, hpending⟩ | houter
          · -- A false condition takes the rest of its stack along, whatever waits there.
            rw [hst] at hpending
            have hbelow : below = s := hpending
            subst hbelow
            by_cases hkind : kind = .operator .ternary
            · exact absurd ⟨hkind, hdepth, hst⟩ hcondition
            · exact absurd rfl ((hbranch hkind hexp hst).of_ok (outcome_pure _ (.ofGlobals .empty)))
          · exact Or.inr houter
      | nest _ => exact h
      | resume _ => exact h
      | regroup _ _ => exact h
      | target _ =>
          -- The frame that the assignment stands in joins those around the new one.
          rw [hready]
          rcases h with ⟨hdepth, hpending⟩ | ⟨a, ha, hpending⟩
          · exact Or.inr ⟨_, getElem?_reverse_cons.mpr (Or.inl ⟨hdepth, rfl⟩), hpending⟩
          · exact Or.inr ⟨a, getElem?_reverse_cons.mpr (Or.inr ha), hpending⟩
  | @take slot o hslot _ =>
      rcases shaped_ready hsound.shaped hslot with ⟨hframe, hfits, houter⟩
      rcases hsound.waits.ready hslot with ⟨hframe', hmisfit, houter'⟩
      rw [hready] at hframe hfits houter hframe' houter' ⊢
      refine ensures_bind (ensures_true _) fun v _ => ?_
      refine ensures_bind (ensures_ofExcept _ (fun q hq => hq) fun _ _ => trivial) fun q hq => ?_
      have hplaced := placed_of_place hq
      rcases waits_of_place hframe hfits hframe' hmisfit hq with ⟨hq', hexp⟩
      have hwaits : q.Waits rounding := ⟨hq', hexp, by rw [hplaced.outer_eq]; exact houter'⟩
      refine settle_defers hs _ _ _ _ (shaped_of_place hframe hfits houter hq) hwaits ?_
        (by rw [hplaced.outer_eq]; exact hslots)
      rcases h with ⟨hdepth, hpending⟩ | ⟨a, ha, hpending⟩
      · -- The operand comes to the frame in which it waits, where only `or` clears the stack.
        rcases (pending_of_place hframe hfits (hpending ▸ hdeferred) hq).2 with hkept | ⟨rfl, _⟩
        · exact Or.inl ⟨hdepth.trans (congrArg List.length hplaced.outer_eq).symm,
            hkept.trans hpending⟩
        · exact absurd (Or.inl ⟨hdepth, expecting_of_slot? hslot⟩) hor
      · exact Or.inr ⟨a, by rw [hplaced.outer_eq]; exact ha, hpending⟩
  | close _ _ =>
      exact settle_defers hs _ _ _ _ ⟨hsound.shaped.frame.marked, trivial, hsound.shaped.outer⟩
        ⟨hsound.waits.frame, nofun, hsound.waits.outer⟩ h hslots

/-- A result takes a stack on which nothing waits. -/
theorem result_ensures_false {f : Frame} (hlen : 2 ≤ f.stack.length) :
    (ofExcept f.result).Ensures (fun _ => False) fun _ => True := by
  refine ensures_ofExcept _ (fun v hv => ?_) fun _ _ => trivial
  unfold Frame.result at hv
  split at hv
  · cases hv
  · split at hv
    next w hst =>
      rw [hst] at hlen
      simp only [List.length_singleton] at hlen
      omega
    next => cases hv
    -- More than one entry is the case that the result refuses.
    next hnone hmany =>
      rcases hst : f.stack with _ | ⟨e, _ | ⟨e', below⟩⟩
      · rw [hst] at hlen
        simp only [List.length_nil] at hlen
        omega
      · rw [hst] at hlen
        simp only [List.length_singleton] at hlen
        omega
      · exact hmany _ _ _ hst

/-- No result comes of what waits, unless its frame awaits the right operand of
    `or`. -/
theorem finish_defers {depth : Nat} {s : Stack} (hs : s ≠ []) (frame : Frame)
    (expecting : Expecting) (regroupings : Nat) (outer : List Assignment)
    (hshaped : Shaped ⟨frame, expecting, outer, regroupings⟩)
    (hwaits : Waits rounding ⟨frame, expecting, outer, regroupings⟩)
    (h : Defers ⟨frame, expecting, outer, regroupings⟩ depth s)
    (hslot : ∀ a, outer.reverse[depth]? = some a → a.slot ≠ .right .coalesce) :
    (finish rounding frame expecting regroupings outer).Ensures (fun _ => False)
      fun _ => True := by
  induction outer generalizing frame expecting regroupings with
  | nil =>
      unfold finish
      split
      · exact ensures_fail _ trivial
      · have hdeferred := h.deferred hwaits hs
        rcases h with ⟨_, hpending⟩ | ⟨a, ha, _⟩
        · -- Four entries wait, with or without a value on top of them.
          have hle := frame.stack.length_pending_le
          rw [hpending, hdeferred.length_eq] at hle
          exact result_ensures_false (by omega)
        · cases ha
  | cons a outer ih =>
      unfold finish
      split
      · exact ensures_fail _ trivial
      · refine handed_defers _ hs hshaped hwaits h hslot fun q hq hq' hdefers houter => ?_
        subst houter
        exact ih _ _ _ hq hq' hdefers fun b hb =>
          hslot b (getElem?_reverse_cons.mpr (Or.inr hb))

theorem step_defers {p : Pass} {depth : Nat} {s : Stack} (hs : s ≠ []) (hsound : p.Sound rounding)
    (h : p.Defers depth s) (hor : ¬ p.Coalesces depth) (nested : Nested α) (env : Env)
    (source : String) (t : Token α)
    (hcondition : ¬ (t.kind = .operator .ternary ∧ depth = p.outer.length ∧
      p.frame.stack = .value (.bool false) :: s)) :
    (p.step nested rounding env source t).Ensures (Defers · depth s) fun _ => True :=
  ensures_mapError (feed_defers hs hsound h hor t.kind _ _ hcondition) fun _ _ => trivial

/-- No result comes of what waits at the end of the tokens, unless its frame
    awaits the right operand of `or`. -/
theorem stop_defers {p : Pass} {depth : Nat} {s : Stack} (hs : s ≠ []) (hsound : p.Sound rounding)
    (h : p.Defers depth s) (hor : ¬ p.Coalesces depth) (ending : Reading.End) :
    (p.stop rounding ending).Ensures (fun _ => False) fun _ => True := by
  cases ending with
  | fault fault => exact ensures_throw _ trivial
  | finished leftover =>
      simp only [stop, atEnd_of_ne_another (h.ne_another hsound hs)]
      exact finish_defers hs _ _ _ _ hsound.shaped hsound.waits h
        fun a ha hslot => hor (Or.inr ⟨a, ha, hslot⟩)

/-- Without tokens a pass is where it was. -/
theorem eq_of_after_nil {nested : Nested α} {env : Env} {source : String} {p q : Pass}
    {vs vs' : Variables}
    (h : (after nested rounding env source p []).outcome vs = (.ok q, vs')) :
    q = p ∧ vs' = vs := by
  rw [after_nil, outcome_pure, Prod.mk.injEq, Except.ok.injEq] at h
  exact ⟨h.1.symm, h.2.symm⟩

/-- What waits at some depth of a pass, with tokens to come, is dropped before the
    next of them or at the end. -/
structure Drops (nested : Nested α) (rounding : Rounding) (env : Env) (source : String)
    (depth : Nat) (s : Stack) (p : Pass) (vs : Variables) (ts : List (Token α)) : Prop where
  /-- It waits until then. -/
  defers : p.Defers depth s
  /-- It is no longer there after the next token. -/
  gone : ∀ t later q vs', ts = t :: later →
    (p.step nested rounding env source t).outcome vs = (.ok q, vs') → ¬ q.Defers depth s
  /-- The next token is a question mark with a false condition before it, or its
      frame awaits the right operand of `or`. -/
  reason : (∃ t later, ts = t :: later ∧ t.kind = .operator .ternary ∧
    depth = p.outer.length ∧ p.frame.stack = .value (.bool false) :: s) ∨ p.Coalesces depth

/-- Where tokens lead from a pass in which something waits to a value, there is a
    pass on the way in which it is dropped, and until then it waits. -/
theorem drops_of_outcome (nested : Nested α) (env : Env) (source : String) {ending : Reading.End}
    {depth : Nat} {s : Stack} (hs : s ≠ []) {ts : List (Token α)} {p r : Pass} {v : Value}
    {vs mid vs' : Variables} (hsound : p.Sound rounding) (h : p.Defers depth s)
    (hafter : (after nested rounding env source p ts).outcome vs = (.ok r, mid))
    (hstop : (r.stop rounding ending).outcome mid = (.ok v, vs')) :
    ∃ before later q mid', ts = before ++ later ∧
      (after nested rounding env source p before).outcome vs = (.ok q, mid') ∧
      (∀ us ws q₁ mid₁, before = us ++ ws →
        (after nested rounding env source p us).outcome vs = (.ok q₁, mid₁) →
          q₁.Defers depth s) ∧
      Drops nested rounding env source depth s q mid' later := by
  -- The induction is on the tokens to come, and stops where the first one drops it.
  induction ts generalizing p vs with
  | nil =>
      rcases eq_of_after_nil hafter with ⟨rfl, rfl⟩
      refine ⟨[], [], r, mid, rfl, rfl, fun us ws q₁ mid₁ hsplit hus => ?_, h,
        fun t later q vs'' hcons => absurd hcons.symm (List.cons_ne_nil t later), Or.inr ?_⟩
      · rw [(List.append_eq_nil_iff.mp hsplit.symm).1] at hus
        rw [(eq_of_after_nil hus).1]
        exact h
      · refine Classical.byContradiction fun hor => ?_
        exact (stop_defers hs hsound h hor ending).of_ok hstop
  | cons t ts ih =>
      rw [after_cons, outcome_bind_eq_ok] at hafter
      rcases hafter with ⟨q, mid', hstep, hafter⟩
      by_cases hq : q.Defers depth s
      · -- It still waits, so the pass in which it is dropped comes later.
        rcases ih ((step_sound nested env source p t hsound).of_ok hstep) hq hafter with
          ⟨before, later, q', mid'', rfl, hbefore, hkept, hdrops⟩
        refine ⟨t :: before, later, q', mid'', rfl, ?_, fun us ws q₁ mid₁ hsplit hus => ?_, hdrops⟩
        · rw [after_cons, outcome_bind_of_ok _ _ _ _ _ hstep]
          exact hbefore
        · rcases us with _ | ⟨u, us⟩
          · rw [(eq_of_after_nil hus).1]
            exact h
          · cases hsplit
            rw [after_cons, outcome_bind_of_ok _ _ _ _ _ hstep] at hus
            exact hkept us ws q₁ mid₁ rfl hus
      · refine ⟨[], t :: ts, p, vs, rfl, rfl, fun us ws q₁ mid₁ hsplit hus => ?_, h, ?_, ?_⟩
        · rw [(List.append_eq_nil_iff.mp hsplit.symm).1] at hus
          rw [(eq_of_after_nil hus).1]
          exact h
        · intro t' later q' vs'' hcons hstep'
          cases hcons
          rw [hstep] at hstep'
          cases hstep'
          exact hq
        · refine Classical.byContradiction fun hreason => ?_
          rw [not_or] at hreason
          exact hq ((step_defers hs hsound h hreason.2 nested env source t
            fun hcondition => hreason.1 ⟨t, ts, rfl, hcondition⟩).of_ok hstep)

/-- In a run that comes to a value, whatever waits below the value on top of a
    frame after some of its tokens is a junction with its left operand and the
    operator whose right operand it took. It is never applied: it waits, as it is,
    until it is dropped, and that happens to it sooner or later. What drops it is
    a false condition in its frame, or `or`, which clears the stack. -/
theorem deferred_until (nested : Nested α) (env : Env) (source : String) (reading : Reading α)
    {v : Value} {vs vs' mid : Variables} {ts later : List (Token α)} {p : Pass} {depth : Nat}
    {s : Stack} (hrun : (run nested rounding env source reading).outcome vs = (.ok v, vs'))
    (hsplit : reading.tokens = ts ++ later)
    (hp : (after nested rounding env source start ts).outcome vs = (.ok p, mid))
    (hs : s ≠ []) (h : p.Defers depth s) :
    (∃ j l op left, s = [.op j, .value l, .op op, .value left] ∧ (j = .and ∨ j = .or)) ∧
    ∃ before after' q mid', later = before ++ after' ∧
      (after nested rounding env source p before).outcome mid = (.ok q, mid') ∧
      (∀ us ws q₁ mid₁, before = us ++ ws →
        (after nested rounding env source p us).outcome mid = (.ok q₁, mid₁) →
          q₁.Defers depth s) ∧
      Drops nested rounding env source depth s q mid' after' := by
  have hsound : p.Sound rounding :=
    (after_sound nested env source start ts sound_start).of_ok hp
  constructor
  · cases h.deferred hsound.waits hs with
    | junction hj _ _ => exact ⟨_, _, _, _, rfl, hj⟩
  · rcases (outcome_run_eq_ok _ _ _ _ _ _ _ _).mp hrun with ⟨r, mid', hr, hstop⟩
    rw [hsplit, after_append, outcome_bind_of_ok _ _ _ _ _ hp] at hr
    exact drops_of_outcome nested env source hs hsound h hr hstop

/-- The tokens of `5 - '' || false`. -/
def waitingTokens : List (Token String) :=
  [⟨.operand (.literal (.int 5)), ⟨0, 1⟩, false⟩, ⟨.operator .sub, ⟨2, 3⟩, false⟩,
    ⟨.operand (.literal (.str "")), ⟨4, 6⟩, false⟩, ⟨.operator .or, ⟨7, 9⟩, false⟩,
    ⟨.operand (.literal (.bool false)), ⟨10, 15⟩, false⟩]

/-- The tokens of `? 1 : 7` after them. -/
def droppingTokens : List (Token String) :=
  [⟨.operator .ternary, ⟨16, 17⟩, false⟩, ⟨.operand (.literal (.int 1)), ⟨18, 19⟩, false⟩,
    ⟨.operator .ternaryElse, ⟨20, 21⟩, false⟩, ⟨.operand (.literal (.int 7)), ⟨22, 23⟩, false⟩]

/-- What waits after the first of them. -/
def waitingStack : Stack :=
  [.op .or, .value (.str ""), .op .sub, .value (.decimal ⟨5, 0⟩)]

/-- `5 - '' || false ? 1 : 7` comes to seven, although the junction waits with the
    subtraction below it. It is the false condition that drops both. -/
theorem deferred_until_condition :
    Token.read "5 - '' || false ? 1 : 7" = ⟨waitingTokens ++ droppingTokens, .finished false⟩ ∧
    (run (Interpret.evaluator {} ⟨.null, .null⟩) .halfDown ⟨.null, .null⟩
      "5 - '' || false ? 1 : 7" (Token.read "5 - '' || false ? 1 : 7")).outcome
        (.ofGlobals .empty) = (.ok (.int 7), .ofGlobals .empty) ∧
    ∃ p mid, (after (Interpret.evaluator {} ⟨.null, .null⟩) .halfDown ⟨.null, .null⟩
        "5 - '' || false ? 1 : 7" start waitingTokens).outcome (.ofGlobals .empty) =
          (.ok p, mid) ∧
      p.Defers 0 waitingStack ∧
      ∃ before later q mid', droppingTokens = before ++ later ∧
        Drops (Interpret.evaluator {} ⟨.null, .null⟩) .halfDown ⟨.null, .null⟩
          "5 - '' || false ? 1 : 7" 0 waitingStack q mid' later := by
  have hread : Token.read "5 - '' || false ? 1 : 7" =
      ⟨waitingTokens ++ droppingTokens, .finished false⟩ := by
    rw [Token.read_eq 24 (by decide)]
    rfl
  have hrun : (run (Interpret.evaluator {} ⟨.null, .null⟩) .halfDown ⟨.null, .null⟩
      "5 - '' || false ? 1 : 7" (Token.read "5 - '' || false ? 1 : 7")).outcome
        (.ofGlobals .empty) = (.ok (.int 7), .ofGlobals .empty) := by
    rw [hread]
    with_unfolding_all rfl
  have hp : (after (Interpret.evaluator {} ⟨.null, .null⟩) .halfDown ⟨.null, .null⟩
      "5 - '' || false ? 1 : 7" start waitingTokens).outcome (.ofGlobals .empty) =
        (.ok
          { frame := { stack := .value (.bool false) :: waitingStack, seen := true, regrouped := 1 }
            regroupings := 1 }, .ofGlobals .empty) := by
    with_unfolding_all rfl
  rcases (deferred_until _ _ _ _ hrun (by rw [hread]) hp (List.cons_ne_nil _ _)
    (Or.inl ⟨rfl, rfl⟩)).2 with ⟨before, later, q, mid', hsplit, _, _, hdrops⟩
  exact ⟨hread, hrun, _, _, hp, Or.inl ⟨rfl, rfl⟩, before, later, q, mid', hsplit, hdrops⟩

end Pass

end Reckon
