import Reckon.Proofs.Course

/-!
# Reducers and Passes

A reducer that pulls its tokens and a pass over all of them come to the same. They
are run side by side, along one course, and each thing that a reducer does is shown
to be what the pass does with the tokens that it takes. The induction that carries
this is on the turns of the reducer (`Course.leads_reduce`). What it says of fewer
turns is what an assignment may rely on, since the reducer of its value pulls from
the same source.

A reducer can stop before its source is used up: at the end of a statement that is
the value of an assignment, and where it skips tokens and finds no end of what it
skips. The first only ever happens inside an assignment, and the rest of the tokens
is then pulled by the reducer around it (`Course.leads_endStatement`). The second
happens where no token is left (`Course.leads_skipStatement`, `Course.leads_skipElse`).
So if the outermost reducer comes to a value it has pulled every token, and left
nothing (`Reducer.outcome_run`).

## Theorems

* `Course.leads_assign`, `Course.leads_operand`: Operands.
* `Course.leads_regroup`, `Course.leads_combine`: Operators applied to operands.
* `Course.leads_branch`: Operators that decide about the statement.
* `Course.leads_reduce`: A reducer and a pass along one course.
* `Reducer.outcome_run`, `Reducer.eval_eq_run`: A reducer comes to what a pass comes to.
-/

namespace Reckon

open Eval

/-- More than one entry is no value to be stored. -/
theorem Frame.assigned_of_lt {f : Frame} (h : 1 < f.stack.length) (target : String) :
    f.assigned target = .error (.illFormed .incomplete) := by
  unfold Frame.assigned
  split
  next hone =>
    rw [hone] at h
    exact absurd h (Nat.lt_irrefl 1)
  next => rfl
  next hmore =>
    rcases hstack : f.stack with _ | ⟨e, _ | ⟨e', below⟩⟩
    · rw [hstack] at h
      exact absurd h (by decide)
    · rw [hstack] at h
      exact absurd h (Nat.lt_irrefl 1)
    · exact absurd hstack (hmore e e' below)

namespace Course

variable {σ α : Type} {c : Course σ α} {n : Nat} {t : Token α} {s : σ} {vs : Variables}
  {r : Reducer} {outer : List Assignment} {k : Nat} {slot : Slot}

/-- A stack worked off, where `stuck` does what the pass does about operands that do not
    fit. -/
theorem leads_workOff {regrouping : Bool}
    {stuck : Operator → Value → Value → Reducer → Pulling σ Reducer}
    {Q : Reducer → σ → Variables → Prop}
    (h : c.Continues n (c.reducing (r.pass k .statement outer) regrouping r.stack) s vs)
    (hsettled : ∀ stack, c.Continues n
      (c.settling ({ r with stack }.pass k .statement outer)) s vs → Q { r with stack } s vs)
    (hstuck : ∀ op left right stack, c.Continues n
      (c.sticking ({ r with stack }.pass k .statement outer) regrouping op left right) s vs →
        (stuck op left right { r with stack }).Leads s vs Q c.Fails) :
    (Reducer.workOff c.rounding stuck r).Leads s vs Q c.Fails := by
  unfold Reducer.workOff
  -- The reducer and the pass collapse the same stack and differ only in what they do when
  -- an operator does not fit its operands.
  cases hcollapse : r.stack.collapse c.rounding with
  | error cause =>
      refine Pulling.leads_fail (Continues.of_error ?_ h)
      simp only [Pass.reduce, hcollapse]
  | ok collapsed =>
      cases collapsed with
      | settled stack =>
          refine Pulling.leads_pure (hsettled stack (Continues.of_ok ?_ h))
          simp only [Pass.reduce, hcollapse]
          rfl
      | stuck op left right below =>
          refine hstuck op left right below ?_
          unfold reducing at h
          simp only [Pass.reduce, hcollapse] at h
          exact h

/-- Operands that do not fit while operands are being regrouped. -/
theorem leads_regroup_lookahead {op : Operator} {left right : Value} {lookahead : Nat}
    {Q : Reducer → σ → Variables → Prop}
    (h : c.Continues n (c.sticking (r.pass k .statement outer) true op left right) s vs) :
    (Reducer.regroup c.src c.nested c.env c.rounding
      (Reducer.reduce c.src c.nested c.rounding c.env lookahead) true op left right r).Leads s vs Q
        c.Fails := by
  unfold Reducer.regroup
  exact Pulling.leads_fail (Continues.of_error rfl h)

/-- A pass that waits for the next operator does so even if its statement is closed. -/
theorem Continues.of_sticking {op : Operator} {left right : Value}
    (h : c.Continues n (c.sticking (r.pass k .statement outer) false op left right) s vs)
    (hlt : r.retries < maxRegroupings) :
    c.Continues n (c.going (r.pass k (.regroup op left right) outer)) s vs := by
  have hsettling : c.Continues n (c.settling (r.pass k (.regroup op left right) outer)) s vs := by
    refine Continues.of_ok (if_neg ?_) h
    rw [Bool.false_or, decide_eq_true_eq, Nat.not_le]
    exact hlt
  refine Continues.of_settle ?_ hsettling
  cases outer <;> cases hclosed : r.closed <;>
    simp only [Reducer.pass, Reducer.frame, Pass.settle, hclosed]

/-- The operand is there that the next operator takes the right one together with. -/
theorem leads_regrouping {op next : Operator} {left right v : Value} {turns : Nat}
    (hwithin : r.Within outer)
    (h : c.Continues n (c.putting (r.pass k .statement outer) (.regrouped op left right next) v)
      s vs) :
    (if countLimit ≤ r.retries then Pulling.fail (.failure .overflow)
      else do
        let r ← Reducer.workOff c.rounding (Reducer.regroup c.src c.nested c.env c.rounding
          (Reducer.reduce c.src c.nested c.rounding c.env turns) true)
          { r with
            stack := .op next :: .value v :: .value right :: .op op :: .value left :: r.stack
            retries := r.retries + 1
            lookahead := true }
        return { r with lookahead := false }).Leads s vs (c.Settles n outer) c.Fails := by
  rcases Nat.lt_or_ge r.retries countLimit with hlt | hle
  · rw [if_neg (Nat.not_le.mpr hlt)]
    unfold putting at h
    rw [Pass.place_regrouped hlt] at h
    -- The pass counts the regrouping for its frame, too; the reducer need not.
    refine Pulling.leads_bind (Q := fun r => c.Settles n outer { r with lookahead := false })
      (leads_workOff (k := k + 1) h (fun stack hsettling => ?_)
        fun _ _ _ _ => leads_regroup_lookahead) fun r s vs hsettles => Pulling.leads_pure hsettles
    exact ⟨⟨hwithin.assigns_eq, rfl⟩, k + 1, hsettling⟩
  · rw [if_pos hle]
    exact Pulling.leads_fail (Continues.of_error (Pass.place_regrouped_of_le hle ..) h)

section Operands

variable {name : String} {e : Expecting} {op : Operator}
  (hreduce : ∀ {outer : List Assignment} {r : Reducer} {s : σ} {vs : Variables},
    c.Proceeds n outer r s vs →
      (Reducer.reduce c.src c.nested c.rounding c.env n r).Leads s vs (c.Ends n outer) c.Fails)

include hreduce

/-- The value of an assignment is reduced by another reducer, and in the pass by a frame
    of its own. -/
theorem leads_assign (h : c.Continues n (c.going ((r.pass k e outer).target slot name)) s vs) :
    (Reducer.assign (Reducer.reduce c.src c.nested c.rounding c.env n) name r).Leads s vs
      (c.Puts n outer slot k r) c.Fails := by
  -- The inner reducer runs to its end, which the pass counts as one more open assignment.
  have hinner : c.Proceeds n (⟨name, slot, r.frame k⟩ :: outer)
      { assigns := true, retries := r.retries } s vs :=
    ⟨⟨rfl, rfl⟩, rfl, 0, h⟩
  refine Pulling.leads_bind (hreduce hinner) fun inner s vs hends => ?_
  have hhanding : c.Continues n (c.handing inner ⟨name, slot, r.frame k⟩ outer) s vs := hends
  rcases inner with ⟨_ | ⟨v | op, _ | ⟨_, _⟩⟩, assigns, lookahead, retries, closed, seen⟩
  · exact Pulling.leads_fail (hhanding.of_error rfl)
  · -- The value is stored, and goes to the place that the pass has kept for it.
    refine Pulling.leads_bind (hhanding.of_ok rfl).leads_ofEval fun _ s vs hputs => ?_
    exact Pulling.leads_pure ⟨⟨_, _, rfl⟩, hputs⟩
  · exact Pulling.leads_fail (hhanding.of_error rfl)
  · exact Pulling.leads_fail (hhanding.of_error rfl)
  · exact Pulling.leads_fail (hhanding.of_error rfl)

/-- An operand is evaluated, or its value assigned, and goes to its place. -/
theorem leads_operand (hslot : (r.pass k e outer).slot? = some slot) (hexp : e ≠ .another)
    (hkind : t.kind.operator? = none) (hplain : ∀ name, t.kind = .assign name → t.negated = false)
    (h : c.Continues n (c.feeding (r.pass k e outer) t) s vs) :
    (Reducer.operand c.src c.nested c.env (Reducer.reduce c.src c.nested c.rounding c.env n) t
      r).Leads s vs (c.Puts n outer slot k r) c.Fails := by
  unfold Reducer.operand
  cases ht : t.kind with
  | operator op =>
      rw [ht] at hkind
      cases hkind
  | assign name =>
      have htarget : c.Continues n (c.going ((r.pass k e outer).ready.target slot name)) s vs := by
        refine h.of_feed_pure ?_
        rw [ht, Pass.feed_assign _ _ slot name _ _ hslot]
      rw [Pass.ready_of_ne_another hexp] at htarget
      -- A source hands out no assignment that is negated.
      refine Pulling.leads_bind (leads_assign hreduce htarget) fun ⟨v, r'⟩ s vs hputs => ?_
      simp only [hplain name ht]
      exact Pulling.leads_pure hputs
  | operand o =>
      -- The pass negates a value before it is put in its place, too.
      have hvalue : c.Continues n (fun s ts =>
          c.located s (o.value c.nested c.env c.src.expr (t.span.start + 1)) >>= fun v =>
            c.located s (if t.negated then Operand.inverse v else pure v) >>= fun v =>
              c.putting (r.pass k .statement outer) slot v s ts) s vs := by
        unfold feeding at h
        rw [ht, Pass.feed_operand _ _ slot o _ _ hslot, Pass.ready_of_ne_another hexp] at h
        simpa only [Pass.operand, Token.value, place_pass, putting, settling, located, locate,
          mapError_bind, bind_assoc] using h
      refine Pulling.leads_bind hvalue.leads_ofEval fun v s vs hnegation => ?_
      simp only [pure_bind]
      split
      next hnegated =>
        rw [hnegated] at hnegation
        refine Pulling.leads_bind hnegation.leads_ofEval fun w s vs hputs => ?_
        exact Pulling.leads_pure ⟨⟨_, _, rfl⟩, hputs⟩
      next hnegated =>
        rw [Bool.not_eq_true] at hnegated
        rw [hnegated] at hnegation
        exact Pulling.leads_pure ⟨⟨_, _, rfl⟩, hnegation.of_pure⟩

/-- The operand to the right of an operator. -/
theorem leads_nextOperand {m : Nat} (hwants : Expecting.Wants op e slot)
    (h : c.Continues m (c.going (r.pass k e outer)) s vs) (hle : m ≤ n + 1) :
    (Reducer.nextOperand c.src c.nested c.env (Reducer.reduce c.src c.nested c.rounding c.env n) op
      r).Leads s vs (c.Puts n outer slot k r) c.Fails := by
  have hslot : (r.pass k e outer).slot? = some slot := by cases hwants <;> rfl
  have hexp : e ≠ .another := by cases hwants <;> exact Expecting.noConfusion
  have hmissing : Pass.missing? e = some (.illFormed (.missingAfter op)) := by
    cases hwants <;> rfl
  unfold Reducer.nextOperand
  -- With no token left the operator has no right operand, in the reducer and in the pass.
  refine Pulling.leads_bind (h.leads_next hle fun _ _ => fails_of_missing? hmissing) ?_
  rintro (_ | t) s vs ht
  · exact Pulling.leads_fail ht
  · rcases ht with ⟨hplain, hfeeding⟩
    cases hkind : t.kind.operator? with
    | none =>
        simp only [hkind]
        exact leads_operand hreduce hslot hexp hkind hplain hfeeding
    | some op' =>
        have hop := Token.Kind.eq_operator_of_operator? hkind
        simp only [hkind]
        refine Pulling.leads_fail (hfeeding.of_feed_fail ?_)
        rw [hop]
        cases hwants <;> rfl

/-- Operands that do not fit while none are being regrouped. -/
theorem leads_regroup {op : Operator} {left right : Value} (hwithin : r.Within outer)
    (h : c.Continues n (c.sticking (r.pass k .statement outer) false op left right) s vs) :
    (Reducer.regroup c.src c.nested c.env c.rounding
      (Reducer.reduce c.src c.nested c.rounding c.env n) false op left right r).Leads s vs
        (c.Settles n outer) c.Fails := by
  unfold Reducer.regroup
  dsimp only
  rcases Nat.lt_or_ge r.retries maxRegroupings with hlt | hle
  · rw [if_neg (Nat.not_le.mpr hlt)]
    refine Pulling.leads_bind ((h.of_sticking hlt).leads_next (Nat.le_succ n) fun _ _ =>
      fails_of_missing? (p := r.pass k (.regroup op left right) outer) rfl) ?_
    rintro (_ | t) s vs ht
    · exact Pulling.leads_fail ht
    rcases ht with ⟨_, hfeeding⟩
    cases hkind : t.kind.operator? with
    | none =>
        simp only [hkind]
        refine Pulling.leads_fail (hfeeding.of_feed_fail ?_)
        simp only [Reducer.pass, Pass.feed, hkind]
    | some next =>
        simp only [hkind]
        cases hstructural : next.isStructural with
        | true =>
            refine Pulling.leads_fail (hfeeding.of_feed_fail ?_)
            simp only [Reducer.pass, Pass.feed, hkind, hstructural, if_true]
        | false =>
            have hright : c.Continues n
                (c.going (r.pass k (.regroupRight op left right next) outer)) s vs := by
              refine hfeeding.of_feed_pure ?_
              simp only [Reducer.pass, Pass.feed, hkind, hstructural, Bool.false_eq_true, if_false]
            simp only [Bool.false_eq_true, if_false]
            refine Pulling.leads_bind
              (leads_nextOperand hreduce .regrouped hright (Nat.le_succ n)) ?_
            -- An assignment to the right may have been regrouped, or have met an end.
            rintro ⟨v, r'⟩ s vs ⟨⟨retries, closed, rfl⟩, hputs⟩
            exact leads_regrouping ⟨hwithin.assigns_eq, hwithin.lookahead_eq⟩ hputs
  · rw [if_pos hle]
    refine Pulling.leads_fail (Continues.of_error (if_pos ?_) h)
    rw [Bool.false_or, decide_eq_true_eq]
    exact hle

/-- The stack worked off after an operator and its right operand were put on it. -/
theorem leads_combine (hwithin : r.Within outer)
    (h : c.Continues n (c.reducing (r.pass k .statement outer) false r.stack) s vs) :
    (Reducer.combine c.src c.nested c.env c.rounding
      (Reducer.reduce c.src c.nested c.rounding c.env n) r).Leads s vs (c.Settles n outer)
        c.Fails := by
  unfold Reducer.combine
  rw [hwithin.lookahead_eq]
  refine leads_workOff h (fun stack hsettling => ?_) fun op left right stack hsticking => ?_
  · exact ⟨hwithin.withStack stack, k, hsettling⟩
  · exact leads_regroup hreduce (hwithin.withStack stack) hsticking

end Operands

section Tokens

variable {op : Operator} {v : Value} {below : Stack} (rounding : Rounding) (k : Nat)
  (outer : List Assignment) (shown : String) (value : Operand α → Eval Value)

/-- An operator that follows a value. -/
theorem feed_operator (hstack : r.stack = .value v :: below)
    (hkind : t.kind.operator? = some op) :
    (r.pass k .statement outer).feed rounding t.kind shown value =
      (r.pass k .statement outer).operator rounding op v below := by
  rw [Token.Kind.eq_operator_of_operator? hkind]
  simp only [Reducer.pass, Reducer.frame, Pass.feed, Pass.feedStatement, hstack]

/-- An operator that follows no value. Between two statements it may be another end of one. -/
theorem feed_operator_first
    (hnone : ∀ v below, r.stack = .value v :: below → False)
    (hkind : t.kind.operator? = some op) :
    (r.pass k .statement outer).feed rounding t.kind shown value =
      if op == .endOfStatement && outer.isEmpty then pure (r.pass k .statement outer)
      else Eval.fail (.illFormed (.missingBefore op)) := by
  rw [Token.Kind.eq_operator_of_operator? hkind]
  simp only [Reducer.pass, Reducer.frame, Pass.feed, Pass.feedStatement]
  rfl

/-- An operand or an assignment that follows a value. -/
theorem feed_afterOperand (hstack : r.stack = .value v :: below)
    (hkind : t.kind.operator? = none) :
    (r.pass k .statement outer).feed rounding t.kind shown value =
      Eval.fail (.illFormed (.afterOperand shown)) := by
  cases ht : t.kind with
  | operator op =>
      rw [ht] at hkind
      cases hkind
  | _ => simp only [Reducer.pass, Reducer.frame, Pass.feed, Pass.feedStatement, hstack]

end Tokens

section Statements

variable {falls : Reducer → σ → Variables → Prop}

/-- After the end of a statement nothing depends on whether the value has been dropped:
    it is where another token comes, or anything else is left over. -/
theorem Continues.of_another (h : c.Continues n (c.going (r.pass k .another [])) s vs) :
    c.Continues n (c.going ((if c.src.hasMore s then { r with stack := [] } else r).pass k
      .statement [])) s vs := by
  rcases h with ⟨hreached, ts, hyields, hlt, hrest⟩
  refine ⟨hreached, ts, hyields, hlt, Eq.trans ?_ hrest⟩
  generalize hending : c.ending = ending at hyields
  unfold going
  rw [hending]
  cases hyields with
  | fault => rfl
  | nothing =>
      cases hmore : c.src.hasMore s <;> rfl
  | token _ hmore =>
      rw [hmore]
      rfl

/-- The end of the outermost statement. Its value is dropped where anything follows. -/
theorem leads_endStatement_nil (hwithin : r.Within []) (hclosed : r.closed = false)
    (h : c.Continues n (c.settling ({ r with closed := true }.pass k .statement [])) s vs) :
    (Reducer.endStatement c.src r).Leads s vs (c.Signals n [] falls) c.Fails := by
  have hsettle : Pass.settle c.rounding ({ r with closed := true }.frame k) .statement r.retries
      [] = if 1 < r.stack.length then Eval.fail (.illFormed .incomplete)
        else pure (r.pass k .another []) := by
    obtain ⟨stack, assigns, lookahead, retries, closed, seen⟩ := r
    cases hclosed
    rfl
  unfold Reducer.endStatement
  split
  next hlt => exact Pulling.leads_fail (Continues.of_settle_fail (hsettle.trans (if_pos hlt)) h)
  next hlt =>
    have hanother := Continues.of_settle (hsettle.trans (if_neg hlt)) h
    rw [hwithin.assigns_eq]
    -- The reducer drops the value now, and the pass only when it knows what follows.
    refine Pulling.leads_bind (Q := fun more s vs => more = c.src.hasMore s ∧
      c.Continues n (c.going (r.pass k .another [])) s vs)
      (Pulling.leads_hasMore ⟨rfl, hanother⟩) ?_
    rintro _ s vs ⟨rfl, hanother⟩
    have hnext := hanother.of_another
    split
    next hmore =>
      rw [if_pos hmore] at hnext
      exact Pulling.leads_pure ⟨⟨rfl, hwithin.lookahead_eq⟩, hclosed, k, hnext⟩
    next hmore =>
      rw [if_neg hmore] at hnext
      exact Pulling.leads_pure ⟨hwithin, hclosed, k, hnext⟩

/-- The end of a statement that is the value of an assignment. The reducer stops there, and
    the pass hands the value to the statement around it. -/
theorem leads_endStatement_cons {a : Assignment} (hwithin : r.Within (a :: outer))
    (h : c.Continues n (c.settling ({ r with closed := true }.pass k .statement (a :: outer))) s
      vs) :
    (Reducer.endStatement c.src r).Leads s vs (c.Signals n (a :: outer) falls) c.Fails := by
  -- Settling hands the value to the assignment around, which is what the reducer does by
  -- returning to its caller.
  have hhanding : c.Continues n (c.handing { r with closed := true } a outer) s vs := by
    have hsettle : Pass.settle c.rounding ({ r with closed := true }.frame k) .statement r.retries
        (a :: outer) = (do
          let v ← Eval.ofExcept (({ r with closed := true }.frame 0).assigned a.target)
          Eval.assign a.target v
          let q ← Eval.ofExcept (Pass.place c.rounding
            ⟨{ a.frame with closed := true }, .statement, outer, r.retries⟩ a.slot v)
          Pass.settle c.rounding q.frame q.expecting q.regroupings q.outer) := by
      refine bind_congr fun v => bind_congr fun _ => place_bind_congr fun q hq => ?_
      rw [hq.outer_eq]
    unfold settling at h
    simp only [Reducer.pass, hsettle, located, locate, mapError_bind, bind_assoc] at h
    exact h
  unfold Reducer.endStatement
  split
  next hlt =>
    refine Pulling.leads_fail (Continues.of_error ?_ hhanding)
    exact Frame.assigned_of_lt (f := { r with closed := true }.frame 0) hlt a.target
  next hlt =>
    rw [hwithin.assigns_eq]
    exact Pulling.leads_pure hhanding

/-- The end of a statement, for which the pass closes its innermost frame. -/
theorem leads_endStatement (hwithin : r.Within outer) (hclosed : r.closed = false)
    (h : c.Continues n (c.settling ({ r with closed := true }.pass k .statement outer)) s vs) :
    (Reducer.endStatement c.src r).Leads s vs (c.Signals n outer falls) c.Fails := by
  cases outer with
  | nil => exact leads_endStatement_nil hwithin hclosed h
  | cons a outer => exact leads_endStatement_cons hwithin h

/-- A statement ends if an assignment in it has met its end. -/
theorem leads_settle (falls : Reducer → σ → Variables → Prop) (h : c.Settles n outer r s vs) :
    (Reducer.settle c.src r).Leads s vs (c.Signals n outer falls) c.Fails := by
  rcases h with ⟨hwithin, k, hsettling⟩
  unfold Reducer.settle
  cases hclosed : r.closed with
  | true =>
      refine leads_endStatement (k := k) ⟨hwithin.assigns_eq, hwithin.lookahead_eq⟩ rfl ?_
      rw [← hclosed]
      exact hsettling
  | false =>
      refine Pulling.leads_pure ⟨hwithin, hclosed, k, Continues.of_settle ?_ hsettling⟩
      exact Pass.settle_of_not_closed c.rounding _ _ _ _ hclosed

/-- The rest of a statement is skipped. -/
theorem leads_skipStatement (hwithin : r.Within outer) (hclosed : r.closed = false)
    (h : c.Continues n (c.going (r.pass k .statementEnd outer)) s vs) :
    (Reducer.skipStatement c.src n r).Leads s vs (c.Signals n outer falls) c.Fails := by
  -- The bound on the tokens left goes down with each token that is pulled and dropped.
  induction n generalizing s vs with
  | zero => exact h.elim
  | succ n ih =>
      unfold Reducer.skipStatement
      refine Pulling.leads_bind (h.leads_next (Nat.le_refl _) fun hreached hnext hending hstop =>
        ends_of_stop (n := n) rfl Expecting.noConfusion hclosed hreached hnext hending hstop) ?_
      rintro (_ | t) s vs ht
      · exact Pulling.leads_pure ht
      rcases ht with ⟨_, hfeeding⟩
      have hle : n ≤ n + 1 := Nat.le_succ n
      dsimp only
      split
      next hend =>
        have hsettling := hfeeding.of_feed_close (by
          simp only [Reducer.pass, Pass.feed, hend])
        exact (leads_endStatement hwithin hclosed hsettling).mono fun _ _ _ h => h.mono hle
      next hother =>
        refine (ih (hfeeding.of_feed_pure ?_)).mono fun _ _ _ h => h.mono hle
        simp only [Reducer.pass, Pass.feed]

/-- A branch is skipped, up to the other one or to the end of the statement. -/
theorem leads_skipElse {depth : Nat} (hwithin : r.Within outer) (hclosed : r.closed = false)
    (h : c.Continues n (c.going (r.pass k (.elseBranch depth) outer)) s vs) :
    (Reducer.skipElse c.src n depth r).Leads s vs (c.Signals n outer falls) c.Fails := by
  -- As for a statement, with the depth of ternaries that were opened on the way.
  induction n generalizing depth s vs with
  | zero => exact h.elim
  | succ n ih =>
      unfold Reducer.skipElse
      refine Pulling.leads_bind (h.leads_next (Nat.le_refl _) fun hreached hnext hending hstop =>
        ends_of_stop (n := n) rfl Expecting.noConfusion hclosed hreached hnext hending hstop) ?_
      rintro (_ | t) s vs ht
      · exact Pulling.leads_pure ht
      rcases ht with ⟨_, hfeeding⟩
      refine Pulling.Leads.mono ?_ fun _ _ _ (h : c.Signals n outer falls _ _ _) =>
        h.mono (Nat.le_succ n)
      dsimp only
      split
      next hopens =>
        exact ih (hfeeding.of_feed_pure (by simp only [Reducer.pass, Pass.feed, hopens]))
      next helse =>
        have hgoing := hfeeding.of_feed_pure (q := r.pass k .statement outer) (by
          simp only [Reducer.pass, Pass.feed, helse])
        exact Pulling.leads_pure ⟨hwithin, hclosed, k, hgoing⟩
      next hcloses =>
        exact ih (hfeeding.of_feed_pure (by simp only [Reducer.pass, Pass.feed, hcloses]))
      next hend =>
        have hsettling := hfeeding.of_feed_close (by
          simp only [Reducer.pass, Pass.feed, hend])
        exact leads_endStatement hwithin hclosed hsettling
      next hternary helse hcloses hend =>
        refine ih (hfeeding.of_feed_pure ?_)
        simp only [Reducer.pass, Pass.feed]

/-- What an operator that follows a value does. If it falls through, the pass waits for its
    right operand. -/
theorem leads_branch {op : Operator} {v : Value} {below : Stack} (hwithin : r.Within outer)
    (hclosed : r.closed = false) (hstack : r.stack = .value v :: below)
    (hkind : t.kind.operator? = some op)
    (h : c.Continues n (c.feeding (r.pass k .statement outer) t) s vs) :
    (Reducer.branch c.src n op r).Leads s vs (c.Signals n outer (c.Awaits n outer op)) c.Fails := by
  have hfeed := feed_operator c.rounding k outer (Reducer.shown c.nested t)
    (t.value c.nested c.env c.src.expr) hstack hkind
  -- What the operator does to the pass is one equation; each case below proves its own.
  have hskip (hop : (r.pass k .statement outer).operator c.rounding op v below =
      pure (r.pass k .statementEnd outer)) :
      (Reducer.skipStatement c.src n r).Leads s vs (c.Signals n outer (c.Awaits n outer op))
        c.Fails :=
    leads_skipStatement hwithin hclosed (h.of_feed_pure (hfeed.trans hop))
  have hdrop (stack : Stack) (hop : (r.pass k .statement outer).operator c.rounding op v below =
      pure ({ r with stack }.pass k .statement outer)) :
      (pure (.proceed, { r with stack }) : Pulling σ (Signal × Reducer)).Leads s vs
        (c.Signals n outer (c.Awaits n outer op)) c.Fails :=
    Pulling.leads_pure ⟨hwithin.withStack stack, hclosed, k, h.of_feed_pure (hfeed.trans hop)⟩
  unfold Reducer.branch
  cases op with
  | and | or =>
      dsimp only
      rw [hstack]
      cases v with
      | bool b =>
          dsimp only
          split
          next hdecides => exact hskip (by simp only [Pass.operator, hdecides]; rfl)
          next hgoes => exact hdrop below (by simp only [Pass.operator, hgoes]; rfl)
      | _ => exact hdrop below rfl
  | ternary =>
      dsimp only
      rw [hstack]
      cases v with
      | bool b =>
          cases b with
          | true => exact hdrop below rfl
          | false =>
              have hskipping : c.Continues n
                  (c.going ({ r with stack := [] }.pass k (.elseBranch 0) outer)) s vs :=
                h.of_feed_pure (hfeed.trans rfl)
              exact leads_skipElse (hwithin.withStack []) hclosed hskipping
      | _ => exact Pulling.leads_fail (h.of_feed_fail (hfeed.trans rfl))
  | ternaryElse => exact hskip rfl
  | endOfStatement =>
      exact leads_endStatement hwithin hclosed (h.of_feed_close (hfeed.trans rfl))
  | _ => exact Pulling.leads_pure ⟨hwithin, hclosed, k, h.of_feed_pure (hfeed.trans rfl)⟩

end Statements

/-- After an operand the reducer stops if its statement has ended, and goes on otherwise. -/
theorem leads_settled {go : Reducer → Pulling σ Reducer} (h : c.Settles n outer r s vs)
    (hgo : ∀ {r s vs}, c.Proceeds n outer r s vs → (go r).Leads s vs (c.Ends n outer) c.Fails) :
    (do
      let (signal, r) ← Reducer.settle c.src r
      if signal = .abort then return r else go r : Pulling σ Reducer).Leads s vs (c.Ends n outer)
        c.Fails := by
  refine Pulling.leads_bind (leads_settle (fun _ _ _ => False) h) ?_
  rintro ⟨_ | _ | _, r⟩ s vs hsignal
  · exact Pulling.leads_pure hsignal
  · exact hgo hsignal
  · exact hsignal.elim

/-- A reducer and a pass that have come equally far come to the same. -/
theorem leads_reduce (h : c.Proceeds n outer r s vs) :
    (Reducer.reduce c.src c.nested c.rounding c.env n r).Leads s vs (c.Ends n outer) c.Fails := by
  -- Every turn of the loop pulls a token, and so does every reducer that it starts.
  induction n generalizing outer r s vs with
  | zero =>
      rcases h with ⟨_, _, k, hgoing⟩
      exact hgoing.elim
  | succ n ih =>
      rcases h with ⟨hwithin, hclosed, k, hgoing⟩
      unfold Reducer.reduce
      refine Pulling.leads_bind (hgoing.leads_next (Nat.le_refl _)
        fun hreached hnext hending hstop =>
          ends_of_stop (n := n) rfl Expecting.noConfusion hclosed hreached hnext hending hstop) ?_
      rintro (_ | t) s vs ht
      · exact Pulling.leads_pure ht
      rcases ht with ⟨hplain, hfeeding⟩
      refine Pulling.Leads.mono (Q := c.Ends n outer) ?_ fun _ _ _ h => h.mono (Nat.le_succ n)
      dsimp only
      split
      next v below hkind hstack =>
        exact Pulling.leads_fail (hfeeding.of_feed_fail
          (feed_afterOperand c.rounding k outer _ _ hstack hkind))
      next hkind hnone =>
        have hslot : (r.pass k .statement outer).slot? = some .first := by
          simp only [Reducer.pass, Reducer.frame, Pass.slot?]
        refine Pulling.leads_bind
          (leads_operand ih hslot Expecting.noConfusion hkind hplain hfeeding) ?_
        rintro ⟨v, r'⟩ s vs ⟨⟨retries, closed, rfl⟩, hputs⟩
        refine leads_settled ⟨⟨hwithin.assigns_eq, hwithin.lookahead_eq⟩, k, ?_⟩ ih
        exact Continues.of_ok rfl hputs
      next op v below hkind hstack =>
        refine Pulling.leads_bind (leads_branch hwithin hclosed hstack hkind hfeeding) ?_
        rintro ⟨_ | _ | _, r⟩ s vs hsignal
        · exact Pulling.leads_pure hsignal
        · exact ih hsignal
        rcases hsignal with ⟨hwithin, hclosed, k, hawaits⟩
        refine Pulling.leads_bind (leads_nextOperand ih .right hawaits (Nat.le_succ n)) ?_
        rintro ⟨v, r'⟩ s vs ⟨⟨retries, closed, rfl⟩, hputs⟩
        refine Pulling.leads_bind
          (leads_combine ih ⟨hwithin.assigns_eq, hwithin.lookahead_eq⟩ hputs) ?_
        exact fun r s vs hsettles => leads_settled hsettles ih
      next op hkind hnone =>
        have hfeed := feed_operator_first c.rounding k outer (Reducer.shown c.nested t)
          (t.value c.nested c.env c.src.expr) hnone hkind
        -- A semicolon with no value in front of it is passed over, except in an assignment.
        have hopen : (op == .endOfStatement && outer.isEmpty) = true ↔
            op = .endOfStatement ∧ r.assigns = false := by
          rw [hwithin.assigns_eq, Bool.and_eq_true, beq_iff_eq, Bool.not_eq_false']
        split
        next hsemicolon =>
          have hstays := hfeeding.of_feed_pure (hfeed.trans (if_pos (hopen.mpr hsemicolon)))
          exact ih ⟨hwithin, hclosed, k, hstays⟩
        next hmissing =>
          refine Pulling.leads_fail (hfeeding.of_feed_fail (hfeed.trans (if_neg ?_)))
          exact fun h => hmissing (hopen.mp h)

end Course

namespace Reducer

variable {σ α : Type} {src : Source σ α} {s : σ} {ts : List (Token α)} {ending : Reading.End}

/-- A reducer comes to the value or the error that a pass over all tokens comes to. If it is
    a value, the reducer has pulled all of them, up to where the source has none left. -/
theorem outcome_run (nested : Nested α) (rounding : Rounding) (env : Env)
    (hyields : src.Yields s ts ending) (hcursor : src.cursor s = 0)
    (hbound : ts.length < src.bound s) (vs : Variables) {result : Except Error Value}
    {vs' : Variables}
    (hpass : (Pass.run nested rounding env src.expr ⟨ts, ending⟩).outcome vs = (result, vs')) :
    ∃ s', (run src nested rounding env).outcome s vs = ((result, s'), vs') ∧
      ∀ v, result = .ok v → src.Pulls s ts s' ∧ src.next? s' = .ok none := by
  -- The course fixes the run of the pass that the reducer is compared with.
  let c : Course σ α := ⟨src, s, nested, rounding, env, ending, (result, vs')⟩
  have hgoing : (c.going (({} : Reducer).pass 0 .statement []) s ts).outcome vs =
      (result, vs') := by
    change (Pass.runFrom nested rounding env src.expr ending (src.cursor s) .start ts).outcome vs =
      (result, vs')
    rw [hcursor]
    exact hpass
  -- Nothing was pulled yet, and the pass stands at its start.
  have hproceeds : c.Proceeds (src.bound s) [] {} s vs :=
    ⟨⟨rfl, rfl⟩, rfl, 0, ⟨[], .nothing s⟩, ts, hyields, hbound, hgoing⟩
  have hleads : (run src nested rounding env).Leads s vs
      (fun v s vs => c.outcome = (.ok v, vs) ∧ c.Reached s ∧ src.next? s = .ok none)
      fun e _ vs => c.outcome = (.error e, vs) := by
    unfold run
    refine Pulling.leads_locate (E := c.Fails) ?_ fun _ _ _ h => h
    refine Pulling.leads_bind (Pulling.leads_get
      (Q := fun s' s vs => c.Proceeds (src.bound s') [] {} s vs) hproceeds) fun s' s vs h => ?_
    refine Pulling.leads_bind (Course.leads_reduce h) ?_
    rintro r s vs ⟨hreached, hnext, hresult⟩
    rw [Course.located, Eval.locate, Eval.outcome_mapError] at hresult
    refine Pulling.leads_ofEval (fun v vs' hv => ?_) fun e vs' he => ?_
    · rw [hv] at hresult
      exact ⟨hresult.symm, hreached, hnext⟩
    · rw [he] at hresult
      exact hresult.symm
  unfold Pulling.Leads at hleads
  rcases hout : (run src nested rounding env).outcome s vs with ⟨⟨e | v, s'⟩, mid⟩
  · rw [hout] at hleads
    cases hleads
    refine ⟨s', rfl, fun v hv => ?_⟩
    cases hv
  · rw [hout] at hleads
    rcases hleads with ⟨hv, ⟨pulled, hpulls⟩, hnext⟩
    cases hv
    refine ⟨s', rfl, fun _ _ => ⟨?_, hnext⟩⟩
    -- The reducer stopped where its source has no token left, so it pulled them all.
    rw [← (hpulls.eq_of_yields hnext hyields).1]
    exact hpulls

/-- Pulling tokens from a source comes to the same as a pass over all of them. -/
theorem eval_eq_run (nested : Nested α) (rounding : Rounding) (env : Env)
    (hyields : src.Yields s ts ending) (hcursor : src.cursor s = 0)
    (hbound : ts.length < src.bound s) :
    eval src nested rounding env s = Pass.run nested rounding env src.expr ⟨ts, ending⟩ := by
  refine ext_outcome fun vs => ?_
  rcases hpass : (Pass.run nested rounding env src.expr ⟨ts, ending⟩).outcome vs with
    ⟨result, vs'⟩
  rcases outcome_run nested rounding env hyields hcursor hbound vs hpass with ⟨s', hrun, _⟩
  rw [eval, outcome_ofOutcome, hrun]

end Reducer

end Reckon
