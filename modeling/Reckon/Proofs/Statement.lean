import Reckon.Proofs.Run

/-!
# Statements That Have Begun

A frame has read an operand as soon as it is more than a frame waiting for its
first one: when its stack holds something, when it awaits anything else than
the start of a statement, and when an assignment in it awaits its value
anywhere but at its start. Between two statements there is nothing around the
innermost frame, and at most one value is left on it.

So a pass that stands between two statements has a result, and still has one
after the value it stands on is dropped.

Two more invariants are about the start and the end of a statement. Once a token
was read that is no end of statement, the outermost frame has read an operand,
or has an assignment to read there. And a frame whose statement has met its end
is left at once, unless its operands do not fit.

## Main definitions

* `Pass.Begun`: What stands in a frame that has read no operand.
* `Pass.Started`: An operand or an assignment was read.
* `Pass.Lingers`: Why a frame is still there after the end of its statement.

## Theorems

* `Pass.feed_begun`: A token keeps the first invariant.
* `Pass.after_begun`: A run keeps it.
* `Pass.after_started`: Any token but an end of statement starts a run.
* `Pass.after_lingers`: A run keeps the third invariant.
* `Pass.Begun.stop_of_another`: What a pass between statements comes to.
-/

namespace Reckon

open Eval

namespace Pass

variable {α : Type}

/-- Assignments that await their value anywhere but at the start of a statement
    do so in frames that have read an operand. -/
def OuterBegun (outer : List Assignment) : Prop :=
  ∀ a ∈ outer, a.frame.seen = false → a.slot = .first

theorem outerBegun_nil : OuterBegun [] :=
  fun _ ha => absurd ha List.not_mem_nil

/-- A frame that has read no operand waits for its first one, and between two
    statements no other frame is open. -/
structure Begun (p : Pass) : Prop where
  seen : p.frame.seen = false → p.frame.stack = [] ∧ p.expecting = .statement
  outer : OuterBegun p.outer
  another : p.expecting = .another → p.outer = [] ∧ p.frame.stack.length ≤ 1

theorem begun_start : start.Begun :=
  ⟨fun _ => ⟨rfl, rfl⟩, outerBegun_nil, Expecting.noConfusion⟩

/-- A pass in the middle of a statement, an operand of which was read. -/
theorem begun_of_seen {p : Pass} (hseen : p.frame.seen = true) (houter : OuterBegun p.outer)
    (hexp : p.expecting ≠ .another) : p.Begun :=
  ⟨fun h => absurd hseen (by rw [h]; nofun), houter, fun h => absurd h hexp⟩

theorem Begun.seen_of_stack {p : Pass} (h : p.Begun) (hst : p.frame.stack ≠ []) :
    p.frame.seen = true := by
  cases hseen : p.frame.seen with
  | true => rfl
  | false => exact absurd (h.seen hseen).1 hst

theorem Begun.seen_of_expecting {p : Pass} (h : p.Begun) (hexp : p.expecting ≠ .statement) :
    p.frame.seen = true := by
  cases hseen : p.frame.seen with
  | true => rfl
  | false => exact absurd (h.seen hseen).2 hexp

/-- A statement is closed after a value or while it is skipped, never before it
    began. -/
theorem Begun.seen_of_closes {p : Pass} (h : p.Begun) (hcloses : p.Closes) :
    p.frame.seen = true := by
  rcases hcloses with ⟨_, v, below, hst⟩ | hexp | ⟨depth, hexp⟩
  · exact h.seen_of_stack (by rw [hst]; nofun)
  · exact h.seen_of_expecting (by rw [hexp]; nofun)
  · exact h.seen_of_expecting (by rw [hexp]; nofun)

/-- A pass that takes an operand either has read one in its frame or has a
    statement to start. -/
theorem Begun.ready {p : Pass} {slot : Slot} (h : p.Begun) (hslot : p.slot? = some slot) :
    (p.ready.frame.seen = false → slot = .first) ∧ OuterBegun p.ready.outer := by
  unfold Pass.ready
  unfold slot? at hslot
  -- A pass that waits for a right operand has seen a value already; otherwise the slot is
  -- the first one.
  split at hslot
  next hexp =>
    simp only [hexp]
    split at hslot
    · cases hslot
    · cases hslot
      exact ⟨fun _ => rfl, h.outer⟩
  next hexp =>
    simp only [hexp]
    cases hslot
    exact ⟨fun _ => rfl, h.outer⟩
  next op hexp =>
    simp only [hexp]
    have hseen := h.seen_of_expecting (by rw [hexp]; nofun)
    exact ⟨fun hns => absurd hseen (by rw [hns]; nofun), h.outer⟩
  next op left right next hexp =>
    simp only [hexp]
    have hseen := h.seen_of_expecting (by rw [hexp]; nofun)
    exact ⟨fun hns => absurd hseen (by rw [hns]; nofun), h.outer⟩
  next => cases hslot

theorem Turn.begun {p q : Pass} (ht : Turn p q) (h : p.Begun) : q.Begun := by
  have hseen : p.expecting ≠ .statement ∨ p.frame.stack ≠ [] → p.frame.seen = true := by
    rintro (hexp | hst)
    · exact h.seen_of_expecting hexp
    · exact h.seen_of_stack hst
  cases ht with
  | stay => exact h
  | restart hexp =>
      exact begun_of_seen (hseen (Or.inl (by rw [hexp]; nofun))) h.outer Expecting.noConfusion
  | drop _ hst =>
      exact begun_of_seen (hseen (Or.inr (by rw [hst]; nofun))) h.outer Expecting.noConfusion
  | await _ hst _ =>
      exact begun_of_seen (hseen (Or.inr (by rw [hst]; nofun))) h.outer Expecting.noConfusion
  | skip _ hst =>
      exact begun_of_seen (hseen (Or.inr (by rw [hst]; nofun))) h.outer Expecting.noConfusion
  | skipBranch _ hst =>
      exact begun_of_seen (hseen (Or.inr (by rw [hst]; nofun))) h.outer Expecting.noConfusion
  | nest hexp =>
      exact begun_of_seen (hseen (Or.inl (by rw [hexp]; nofun))) h.outer Expecting.noConfusion
  | resume hexp =>
      exact begun_of_seen (hseen (Or.inl (by rw [hexp]; nofun))) h.outer Expecting.noConfusion
  | regroup hexp _ =>
      exact begun_of_seen (hseen (Or.inl (by rw [hexp]; nofun))) h.outer Expecting.noConfusion
  | target hslot =>
      -- The new frame waits for its first operand, and the one around it may as well.
      rcases h.ready hslot with ⟨hready, houter⟩
      refine ⟨fun _ => ⟨rfl, rfl⟩, fun a ha => ?_, Expecting.noConfusion⟩
      rcases List.mem_cons.mp ha with rfl | ha
      · exact hready
      · exact houter a ha

/-- Putting a value in its place leaves a frame that has read an operand. -/
theorem Placed.seen_of_imp {slot : Slot} {p q : Pass} (h : Placed slot p q)
    (hseen : p.frame.seen = false → slot = .first) : q.frame.seen = true := by
  refine h.seen ?_
  cases hs : p.frame.seen with
  | true => exact Or.inr rfl
  | false => exact Or.inl (hseen hs)

/-- Handing values outward. -/
theorem settle_begun (rounding : Rounding) (frame : Frame) (expecting : Expecting)
    (regroupings : Nat) (outer : List Assignment) (hseen : frame.seen = true)
    (hexp : expecting ≠ .another) (houter : OuterBegun outer) :
    (settle rounding frame expecting regroupings outer).Ensures Begun fun _ => True := by
  induction outer generalizing frame expecting regroupings with
  | nil =>
      -- The outermost statement ends with at most one value, which it keeps.
      unfold settle
      split
      · split
        · exact ensures_fail _ trivial
        next hlen =>
          exact ensures_pure _ ⟨fun h => absurd hseen (by rw [h]; nofun), outerBegun_nil,
            fun _ => ⟨rfl, Nat.not_lt.mp hlen⟩⟩
      · exact ensures_pure _ (begun_of_seen hseen houter hexp)
  | cons a outer ih =>
      unfold settle
      split
      · refine handed_ensures frame a.target _ _ (ensures_true _)
          (fun v => ensures_ofExcept _ (fun q hq => placed_of_place hq) fun _ _ => trivial)
          fun q hq => ?_
        -- The value that comes back starts the frame around it, or finds it begun.
        exact ih _ _ _ (hq.seen_of_imp (houter a List.mem_cons_self)) hq.ne_another
          fun b hb => houter b (List.mem_cons_of_mem _ hb)
      · exact ensures_pure _ (begun_of_seen hseen houter hexp)

theorem feed_begun (rounding : Rounding) (p : Pass) (kind : Token.Kind α) (shown : String)
    (value : Operand α → Eval Value) (h : p.Begun) :
    (p.feed rounding kind shown value).Ensures Begun fun _ => True := by
  have hcases := feed_cases rounding p kind shown value
  generalize p.feed rounding kind shown value = m at hcases
  cases hcases with
  | turn ht => exact ensures_pure _ (ht.begun h)
  | refuse _ => exact ensures_fail _ trivial
  | @take slot o hslot _ =>
      rcases h.ready hslot with ⟨hready, houter⟩
      refine ensures_bind (ensures_true _) fun v _ => ?_
      refine ensures_bind (ensures_ofExcept _ (fun q hq => placed_of_place hq)
        fun _ _ => trivial) fun q hq => ?_
      -- Placing a value in the first slot is what makes the frame seen.
      refine settle_begun rounding _ _ _ _ (hq.seen_of_imp hready) hq.ne_another ?_
      rw [hq.outer_eq]
      exact houter
  | close hcloses _ =>
      exact settle_begun rounding _ _ _ _ (h.seen_of_closes hcloses) Expecting.noConfusion h.outer

theorem after_begun (nested : Nested α) (rounding : Rounding) (env : Env) (source : String)
    (p : Pass) (ts : List (Token α)) (h : p.Begun) :
    (after nested rounding env source p ts).Ensures Begun fun _ => True := by
  refine after_invariant nested rounding env source p ts h fun t _ q hq => ?_
  exact ensures_mapError (feed_begun rounding q t.kind _ _ hq) fun _ _ => trivial

/-- A pass that has read an operand in its outermost frame, or has an assignment to
    read there. -/
def Started (p : Pass) : Prop :=
  p.outer = [] → p.frame.seen = true

theorem Turn.started {p q : Pass} (ht : Turn p q) (h : p.Started) : q.Started := by
  cases ht with
  | target _ => exact fun houter => absurd houter (List.cons_ne_nil _ _)
  | _ => exact h

theorem settle_started (rounding : Rounding) (frame : Frame) (expecting : Expecting)
    (regroupings : Nat) (outer : List Assignment) (hseen : frame.seen = true)
    (houter : OuterBegun outer) :
    (settle rounding frame expecting regroupings outer).Ensures Started fun _ => True := by
  -- The frame around has begun as soon as a value is handed to it.
  induction outer generalizing frame expecting regroupings with
  | nil =>
      unfold settle
      split
      · split
        · exact ensures_fail _ trivial
        · exact ensures_pure _ fun _ => hseen
      · exact ensures_pure _ fun _ => hseen
  | cons a outer ih =>
      unfold settle
      split
      · refine handed_ensures frame a.target _ _ (ensures_true _)
          (fun v => ensures_ofExcept _ (fun q hq => placed_of_place hq) fun _ _ => trivial)
          fun q hq => ?_
        exact ih _ _ _ (hq.seen_of_imp (houter a List.mem_cons_self))
          fun b hb => houter b (List.mem_cons_of_mem _ hb)
      · exact ensures_pure _ fun houter => absurd houter (List.cons_ne_nil _ _)

theorem operand_started (rounding : Rounding) (p : Pass) (slot : Slot) (value : Eval Value)
    (hseen : p.frame.seen = false → slot = .first) (houter : OuterBegun p.outer) :
    (p.operand rounding slot value).Ensures Started fun _ => True := by
  refine ensures_bind (ensures_true _) fun v _ => ?_
  refine ensures_bind (ensures_ofExcept _ (fun q hq => placed_of_place hq)
    fun _ _ => trivial) fun q hq => ?_
  refine settle_started rounding _ _ _ _ (hq.seen_of_imp hseen) ?_
  rw [hq.outer_eq]
  exact houter

theorem feed_started (rounding : Rounding) (p : Pass) (kind : Token.Kind α) (shown : String)
    (value : Operand α → Eval Value) (h : p.Begun) (hstarted : p.Started) :
    (p.feed rounding kind shown value).Ensures Started fun _ => True := by
  have hcases := feed_cases rounding p kind shown value
  generalize p.feed rounding kind shown value = m at hcases
  cases hcases with
  | turn ht => exact ensures_pure _ (ht.started hstarted)
  | refuse _ => exact ensures_fail _ trivial
  | take hslot _ =>
      rcases h.ready hslot with ⟨hready, houter⟩
      exact operand_started rounding _ _ _ hready houter
  | close hcloses _ => exact settle_started rounding _ _ _ _ (h.seen_of_closes hcloses) h.outer

/-- The first token starts a pass, unless it is an end of statement. -/
theorem feed_start_started (rounding : Rounding) (kind : Token.Kind α) (shown : String)
    (value : Operand α → Eval Value) (hkind : kind.operator? ≠ some .endOfStatement) :
    (start.feed rounding kind shown value).Ensures Started fun _ => True := by
  cases kind with
  | operator op =>
      have hop : (op == .endOfStatement) = false := by
        cases op with
        | endOfStatement => exact absurd rfl hkind
        | _ => rfl
      simp only [feed, start, feedStatement, hop, Bool.false_and, Bool.false_eq_true, if_false]
      exact ensures_fail _ trivial
  | operand o => exact operand_started rounding start .first _ (fun _ => rfl) outerBegun_nil
  | assign name => exact ensures_pure _ fun houter => absurd houter (List.cons_ne_nil _ _)

/-- Tokens start a pass, if there are any and the first one is no end of
    statement. -/
theorem after_started (nested : Nested α) (rounding : Rounding) (env : Env) (source : String)
    (t : Token α) (ts : List (Token α)) (ht : t.operator? ≠ some .endOfStatement) :
    (after nested rounding env source start (t :: ts)).Ensures (fun p => p.Begun ∧ p.Started)
      fun _ => True := by
  rw [after_cons]
  have hfirst : (start.step nested rounding env source t).Ensures (fun p => p.Begun ∧ p.Started)
      fun _ => True :=
    ensures_mapError (ensures_and (feed_begun rounding start t.kind _ _ begun_start)
      (feed_start_started rounding t.kind _ _ ht)) fun _ _ => trivial
  refine ensures_bind hfirst fun p hp => ?_
  refine after_invariant nested rounding env source p ts hp fun u _ q hq => ?_
  exact ensures_mapError (ensures_and (feed_begun rounding q u.kind _ _ hq.1)
    (feed_started rounding q u.kind _ _ hq.1 hq.2)) fun _ _ => trivial

/-- A frame in which a statement has met its end is left at once, unless it waits
    for an operator that takes an operand. -/
def Lingers (p : Pass) : Prop :=
  p.frame.closed = true → p.expecting.regroups = true

theorem lingers_start : start.Lingers := nofun

/-- A pass that reads a statement has not met its end. -/
theorem Lingers.closed_eq_false {p : Pass} (h : p.Lingers) (hexp : p.expecting.regroups = false) :
    p.frame.closed = false := by
  cases hclosed : p.frame.closed with
  | false => rfl
  | true =>
      rw [h hclosed] at hexp
      cases hexp

theorem lingers_of_closed {p : Pass} (h : p.frame.closed = false) : p.Lingers := by
  intro hclosed
  rw [h] at hclosed
  cases hclosed

theorem Turn.lingers {p q : Pass} (ht : Turn p q) (h : p.Lingers) : q.Lingers := by
  cases ht with
  | stay => exact h
  | target _ => exact lingers_of_closed rfl
  | regroup _ _ => exact fun _ => rfl
  | restart hexp | drop hexp _ | await hexp _ _ | skip hexp _ | skipBranch hexp _ | nest hexp
  | resume hexp =>
      exact lingers_of_closed (h.closed_eq_false (by rw [hexp]; rfl))

/-- Handing values outward stops where the operands of an operator do not fit. -/
theorem settle_lingers (rounding : Rounding) (frame : Frame) (expecting : Expecting)
    (regroupings : Nat) (outer : List Assignment)
    (hexp : expecting = .statement ∨ ∃ op left right, expecting = .regroup op left right) :
    (settle rounding frame expecting regroupings outer).Ensures Lingers fun _ => True := by
  -- A closed frame goes on closing outwards, unless an operator stops it for a regrouping.
  induction outer generalizing frame expecting regroupings with
  | nil =>
      cases hclosed : frame.closed with
      | false =>
          rw [settle_of_not_closed _ _ _ _ _ hclosed]
          exact ensures_pure _ (lingers_of_closed hclosed)
      | true =>
          rcases hexp with rfl | ⟨op, left, right, rfl⟩
          · simp only [settle, hclosed]
            split
            · exact ensures_fail _ trivial
            · exact ensures_pure _ (lingers_of_closed rfl)
          · simp only [settle, hclosed]
            exact ensures_pure _ fun _ => rfl
  | cons a outer ih =>
      cases hclosed : frame.closed with
      | false =>
          rw [settle_of_not_closed _ _ _ _ _ hclosed]
          exact ensures_pure _ (lingers_of_closed hclosed)
      | true =>
          rcases hexp with rfl | ⟨op, left, right, rfl⟩
          · simp only [settle, hclosed]
            exact handed_ensures frame a.target _ _ (ensures_true _)
              (fun v => ensures_ofExcept _ (fun q hq => placed_of_place hq) fun _ _ => trivial)
              fun q hq => ih _ _ _ hq.expecting
          · simp only [settle, hclosed]
            exact ensures_pure _ fun _ => rfl

theorem feed_lingers (rounding : Rounding) (p : Pass) (kind : Token.Kind α) (shown : String)
    (value : Operand α → Eval Value) (h : p.Lingers) :
    (p.feed rounding kind shown value).Ensures Lingers fun _ => True := by
  have hcases := feed_cases rounding p kind shown value
  generalize p.feed rounding kind shown value = m at hcases
  cases hcases with
  | turn ht => exact ensures_pure _ (ht.lingers h)
  | refuse _ => exact ensures_fail _ trivial
  | take _ _ =>
      refine ensures_bind (ensures_true _) fun v _ => ?_
      refine ensures_bind (ensures_ofExcept _ (fun q hq => placed_of_place hq)
        fun _ _ => trivial) fun q hq => ?_
      exact settle_lingers rounding _ _ _ _ hq.expecting
  | close _ _ => exact settle_lingers rounding _ _ _ _ (Or.inl rfl)

theorem after_lingers (nested : Nested α) (rounding : Rounding) (env : Env) (source : String)
    (p : Pass) (ts : List (Token α)) (h : p.Lingers) :
    (after nested rounding env source p ts).Ensures Lingers fun _ => True := by
  refine after_invariant nested rounding env source p ts h fun t _ q hq => ?_
  exact ensures_mapError (feed_lingers rounding q t.kind _ _ hq) fun _ _ => trivial

/-- A frame in which an operand was read has a result if at most one entry is
    left on it. -/
theorem exists_result {f : Frame} (hseen : f.seen = true) (hlen : f.stack.length ≤ 1) :
    ∃ v, f.result = .ok v := by
  unfold Frame.result
  rw [hseen]
  rcases hst : f.stack with _ | ⟨e, _ | ⟨e', below⟩⟩
  · exact ⟨.null, rfl⟩
  · cases e with
    | value v => exact ⟨v, rfl⟩
    | op o => exact ⟨.null, rfl⟩
  · rw [hst] at hlen
    simp only [List.length_cons] at hlen
    omega

/-- A pass between two statements comes to the value of the first one if the
    tokens end there, and to null if that value is dropped. -/
theorem Begun.stop_of_another {p : Pass} (h : p.Begun) (hexp : p.expecting = .another)
    (rounding : Rounding) : ∃ v, p.frame.result = .ok v ∧
      p.stop rounding (.finished false) = pure v ∧
      p.stop rounding (.finished true) = pure .null := by
  rcases h.another hexp with ⟨houter, hlen⟩
  have hseen := h.seen_of_expecting (by rw [hexp]; nofun)
  rcases exists_result hseen hlen with ⟨v, hv⟩
  refine ⟨v, hv, ?_, ?_⟩
  · simp only [stop, atEnd, hexp, Bool.false_eq_true, if_false, houter, finish, missing?, hv]
    rfl
  · simp only [stop, atEnd, hexp, if_true, withStack, houter, finish, missing?, Frame.result,
      hseen, Bool.not_true, Bool.false_eq_true, if_false]
    rfl

end Pass

end Reckon
