import Reckon.Proofs.Ending
import Reckon.Proofs.Exchange
import Reckon.Proofs.Reading
import Reckon.Proofs.Statement

/-!
# What a Run Comes To

A run that does not fail comes to the one value that its last statement has
left on the stack, or to null because nothing is left there. The second case is
no error, and this module says when it occurs (`Pass.Vacant`): an operand was
read, no assignment is being read, and the stack of the outermost frame is
empty. The value of an assignment is never made up in this way, as an
assignment that is left without a value fails.

A value that is put in its place fills the stack, and a token that goes on with
a statement keeps it filled (`feed_filled`). What empties it is a mark: a
junction that is not decided, a condition, the start of the other branch or an
end of statement. So nothing is left only if the tokens end with a mark or
inside a branch that is skipped, or if something is left over after the end of a
statement (`Pass.Vacates`).

## Main definitions

* `Operator.dangle`: What an operator without a right operand comes to.
* `Pass.Filled`: A pass that waits for nothing holds something.
* `Pass.Vacant`: Nothing is left at the end.
* `Pass.Vacates`: How tokens leave nothing behind.

## Theorems

* `Pass.feed_filled`: Only marks empty a stack.
* `Pass.Vacant.vacates`: How a run comes to leave nothing.
* `Pass.outcome_run_dangling`: A run that ends with an operator.
* `Pass.run_eq_ok_iff`: When a run comes to a value, and when to null.
-/

namespace Reckon

open Eval

variable {α : Type}

/-- Working off a stack leaves something. -/
theorem Stack.settled_ne_nil {rounding : Rounding} {s s' : Stack} (hs : s ≠ [])
    (h : s.collapse rounding = .ok (.settled s')) : s' ≠ [] := by
  fun_induction Stack.collapse rounding s with
  | case1 s hlen =>
      cases h
      exact hs
  | case3 s hlen o left right below htriple v happ ih => exact ih (List.cons_ne_nil _ _) h
  | case4 | case5 =>
      cases h
      exact List.cons_ne_nil _ _
  | case2 | case6 | case7 => cases h

/-- What a value comes to outside of assignments if an operator follows it and no
    token follows the operator. Junctions, conditions and branches do not miss
    their operands. -/
def Operator.dangle (op : Operator) (v : Value) : Except Cause Value :=
  match op, v with
  | .and, .bool false | .or, .bool true | .ternaryElse, _ | .endOfStatement, _ => .ok v
  | .and, _ | .or, _ | .ternary, .bool _ => .ok .null
  | .ternary, _ => .error (.mismatch (.ternaryCondition v.kindName))
  | _, _ => .error (.illFormed (.missingAfter op))

theorem Operator.dangle_of_combines {op : Operator} (h : op.combines = true) (v : Value) :
    op.dangle v = .error (.illFormed (.missingAfter op)) := by
  cases op with
  | and | or | ternary | ternaryElse | endOfStatement => cases h
  | _ => rfl

namespace Pass

/-- A pass that waits for nothing holds something. -/
def Holding (p : Pass) : Prop :=
  missing? p.expecting = none → p.frame.stack ≠ []

/-- A pass outside of assignments that waits for nothing holds something, unless
    it skips a branch. -/
def Filled (p : Pass) : Prop :=
  p.outer = [] → (∃ depth, p.expecting = .elseBranch depth) ∨ p.Holding

theorem holding_of_missing {p : Pass} {cause : Cause} (h : missing? p.expecting = some cause) :
    p.Holding := by
  intro hnone
  rw [h] at hnone
  cases hnone

theorem Holding.filled {p : Pass} (h : p.Holding) : p.Filled :=
  fun _ => Or.inr h

/-- Working off a stack leaves something, or operands that wait for an operator. -/
theorem reduce_holding {rounding : Rounding} {regrouping : Bool} {p q : Pass} {s : Stack}
    (hs : s ≠ []) (h : p.reduce rounding regrouping s = .ok q) : q.Holding := by
  unfold reduce at h
  split at h
  · cases h
  next s' hcollapse =>
    cases h
    exact fun _ => Stack.settled_ne_nil hs hcollapse
  · split at h
    · cases h
    · cases h
      exact holding_of_missing rfl

/-- A value that was put in its place is there, or waits for an operator. -/
theorem place_holding {rounding : Rounding} {p q : Pass} {slot : Slot} {v : Value}
    (h : p.place rounding slot v = .ok q) : q.Holding := by
  cases slot with
  | first =>
      cases h
      exact fun _ => List.cons_ne_nil _ _
  | right op => exact reduce_holding (List.cons_ne_nil _ _) h
  | regrouped op left right next =>
      exact reduce_holding (List.cons_ne_nil _ _) (place_regrouped_eq_ok h).2

theorem settle_filled (rounding : Rounding) (frame : Frame) (expecting : Expecting)
    (regroupings : Nat) (outer : List Assignment)
    (h : Filled ⟨frame, expecting, outer, regroupings⟩) :
    (settle rounding frame expecting regroupings outer).Ensures Filled fun _ => True := by
  induction outer generalizing frame expecting regroupings with
  | nil =>
      unfold settle
      split
      · split
        · exact ensures_fail _ trivial
        · -- The statement has ended, and its value is still there.
          have hheld : frame.stack ≠ [] := ((h rfl).resolve_left nofun) rfl
          exact ensures_pure _ (Holding.filled fun _ => hheld)
      · exact ensures_pure _ h
  | cons a outer ih =>
      unfold settle
      split
      · exact handed_ensures frame a.target _ _ (ensures_true _)
          (fun v => ensures_ofExcept _ (fun q hq => place_holding hq) fun _ _ => trivial)
          fun q hq => ih _ _ _ fun _ => Or.inr hq
      · exact ensures_pure _ h

theorem operand_filled (rounding : Rounding) (p : Pass) (slot : Slot) (value : Eval Value) :
    (p.operand rounding slot value).Ensures Filled fun _ => True := by
  refine ensures_bind (ensures_true _) fun v _ => ?_
  refine ensures_bind (ensures_ofExcept _ (fun q hq => place_holding hq)
    fun _ _ => trivial) fun q hq => ?_
  exact settle_filled rounding _ _ _ _ hq.filled

/-- An assignment that starts is not the outermost frame. -/
theorem target_filled (p : Pass) (slot : Slot) (name : String) : (p.target slot name).Filled :=
  fun h => absurd h (List.cons_ne_nil _ _)

theorem ne_endOfStatement_of_combines {op : Operator} (h : op.combines = true) :
    (op == .endOfStatement) = false := by
  cases op with
  | endOfStatement => cases h
  | _ => rfl

/-- Whether a stack is kept while the rest of a statement is skipped. -/
def Skips (p : Pass) : Prop :=
  p.expecting = .statementEnd → p.frame.stack ≠ []

theorem skips_of_expecting {p : Pass} (h : p.expecting ≠ .statementEnd) : p.Skips :=
  fun hexp => absurd hexp h

theorem settle_skips (rounding : Rounding) (frame : Frame) (expecting : Expecting)
    (regroupings : Nat) (outer : List Assignment) (h : expecting ≠ .statementEnd) :
    (settle rounding frame expecting regroupings outer).Ensures Skips fun _ => True := by
  -- Handing a value outwards never leaves a pass that waits for the end of a statement.
  induction outer generalizing frame expecting regroupings with
  | nil =>
      unfold settle
      split
      · split
        · exact ensures_fail _ trivial
        · exact ensures_pure _ (skips_of_expecting Expecting.noConfusion)
      · exact ensures_pure _ (skips_of_expecting h)
  | cons a outer ih =>
      unfold settle
      split
      · exact handed_ensures frame a.target _ _ (ensures_true _)
          (fun v => ensures_ofExcept _ (fun q hq => placed_of_place hq) fun _ _ => trivial)
          fun q hq => ih _ _ _ hq.ne_statementEnd
      · exact ensures_pure _ (skips_of_expecting h)

theorem feed_skips (rounding : Rounding) (p : Pass) (kind : Token.Kind α) (shown : String)
    (value : Operand α → Eval Value) (h : p.Skips) :
    (p.feed rounding kind shown value).Ensures Skips fun _ => True := by
  have hcases := feed_cases rounding p kind shown value
  generalize p.feed rounding kind shown value = m at hcases
  cases hcases with
  | turn ht =>
      refine ensures_pure _ ?_
      -- Only the turn that skips waits for the end, and it has just pushed a value.
      cases ht with
      | stay => exact h
      | skip _ hst =>
          intro _
          rw [hst]
          exact List.cons_ne_nil _ _
      | resume => exact skips_of_expecting Expecting.noConfusion
      | _ => exact skips_of_expecting Expecting.noConfusion
  | refuse _ => exact ensures_fail _ trivial
  | take _ _ =>
      refine ensures_bind (ensures_true _) fun v _ => ?_
      exact ensures_bind (ensures_ofExcept _ (fun q hq => placed_of_place hq)
        fun _ _ => trivial) fun q hq => settle_skips rounding _ _ _ _ hq.ne_statementEnd
  | close _ _ => exact settle_skips rounding _ _ _ _ Expecting.noConfusion

theorem after_skips (nested : Nested α) (rounding : Rounding) (env : Env) (source : String)
    (p : Pass) (ts : List (Token α)) (h : p.Skips) :
    (after nested rounding env source p ts).Ensures Skips fun _ => True := by
  refine after_invariant nested rounding env source p ts h fun t _ q hq => ?_
  exact ensures_mapError (feed_skips rounding q t.kind _ _ hq) fun _ _ => trivial

/-- No mark: an operand, the target of an assignment, or an operator that combines
    operands. -/
def GoesOn (kind : Token.Kind α) : Prop :=
  ∀ op, kind = .operator op → op.combines = true

/-- A token that is no mark is skipped where tokens are skipped. -/
theorem feed_skipped (rounding : Rounding) (p : Pass) (kind : Token.Kind α) (shown : String)
    (value : Operand α → Eval Value)
    (hexp : p.expecting = .statementEnd ∨ ∃ depth, p.expecting = .elseBranch depth)
    (hkind : GoesOn kind) : p.feed rounding kind shown value = pure p := by
  rcases hexp with hexp | ⟨depth, hexp⟩
  · cases kind with
    | operator op =>
        have hop := hkind op rfl
        simp only [feed, hexp, Token.Kind.operator?]
        -- The end of the statement is the one operator that a skipping pass looks at.
        cases op with
        | endOfStatement => cases hop
        | _ => rfl
    | _ => simp only [feed, hexp, Token.Kind.operator?]
  · cases kind with
    | operator op =>
        have hop := hkind op rfl
        simp only [feed, hexp, Token.Kind.operator?]
        -- In the branch not taken the two signs of a ternary are counted as well.
        cases op with
        | ternary | ternaryElse | endOfStatement => cases hop
        | _ => rfl
    | _ => simp only [feed, hexp, Token.Kind.operator?]

theorem feedStatement_filled (rounding : Rounding) (p : Pass) (kind : Token.Kind α)
    (shown : String) (value : Operand α → Eval Value) (hkind : GoesOn kind) :
    (p.feedStatement rounding kind shown value).Ensures Filled fun _ => True := by
  -- The top of the stack decides whether the pass expects an operator or an operand.
  rcases hst : p.frame.stack with _ | ⟨v | o, below⟩
  · cases kind with
    | operator op =>
        simp only [feedStatement, hst, ne_endOfStatement_of_combines (hkind op rfl),
          Bool.false_and, Bool.false_eq_true, if_false]
        exact ensures_fail _ trivial
    | operand o =>
        simp only [feedStatement, hst]
        exact operand_filled rounding p _ _
    | assign name =>
        simp only [feedStatement, hst]
        exact ensures_pure _ (target_filled p _ name)
  · cases kind with
    | operator op =>
        simp only [feedStatement, hst, operator_of_combines _ _ _ _ (hkind op rfl)]
        exact ensures_pure _ (holding_of_missing rfl).filled
    | _ =>
        simp only [feedStatement, hst]
        exact ensures_fail _ trivial
  · cases kind with
    | operator op =>
        simp only [feedStatement, hst, ne_endOfStatement_of_combines (hkind op rfl),
          Bool.false_and, Bool.false_eq_true, if_false]
        exact ensures_fail _ trivial
    | operand o =>
        simp only [feedStatement, hst]
        exact operand_filled rounding p _ _
    | assign name =>
        simp only [feedStatement, hst]
        exact ensures_pure _ (target_filled p _ name)

theorem feedRight_filled (rounding : Rounding) (p : Pass) (op : Operator) (slot : Slot)
    (kind : Token.Kind α) (shown : String) (value : Operand α → Eval Value) :
    (p.feedRight rounding op slot kind shown value).Ensures Filled fun _ => True := by
  cases kind with
  | operator op' => exact ensures_fail _ trivial
  | operand o => exact operand_filled rounding p _ _
  | assign name => exact ensures_pure _ (target_filled p _ name)

/-- Only a mark empties the stack of the outermost frame. -/
theorem feed_filled (rounding : Rounding) (p : Pass) (kind : Token.Kind α) (shown : String)
    (value : Operand α → Eval Value) (h : p.Skips) (hkind : GoesOn kind) :
    (p.feed rounding kind shown value).Ensures Filled fun _ => True := by
  -- A token that does not end the statement leaves a value there, something missing, or
  -- a part of the text that is skipped.
  cases hexp : p.expecting with
  | statement =>
      simp only [feed, hexp]
      exact feedStatement_filled rounding p kind shown value hkind
  | another =>
      simp only [feed, hexp]
      exact feedStatement_filled rounding _ kind shown value hkind
  | right op =>
      simp only [feed, hexp]
      exact feedRight_filled rounding p _ _ kind shown value
  | regroupRight op left right next =>
      simp only [feed, hexp]
      exact feedRight_filled rounding p _ _ kind shown value
  | regroup op left right =>
      simp only [feed, hexp]
      split
      · split
        · exact ensures_fail _ trivial
        · exact ensures_pure _ (holding_of_missing rfl).filled
      · exact ensures_fail _ trivial
  | statementEnd =>
      rw [feed_skipped rounding p kind shown value (Or.inl hexp) hkind]
      exact ensures_pure _ (Holding.filled fun _ => h hexp)
  | elseBranch depth =>
      rw [feed_skipped rounding p kind shown value (Or.inr ⟨depth, hexp⟩) hkind]
      exact ensures_pure _ fun _ => Or.inl ⟨depth, hexp⟩

/-- Nothing is left at the end, although an operand was read, no assignment is
    being read and nothing is missing. -/
structure Vacant (p : Pass) : Prop where
  outer : p.outer = []
  seen : p.frame.seen = true
  missing : missing? p.expecting = none
  empty : p.frame.stack = []

theorem atEnd_outer (p : Pass) (leftover : Bool) : (p.atEnd leftover).outer = p.outer := by
  unfold atEnd
  split
  · split <;> rfl
  · rfl

theorem missing?_atEnd (p : Pass) (leftover : Bool) :
    missing? (p.atEnd leftover).expecting = missing? p.expecting := by
  unfold atEnd
  split
  next hexp =>
    rw [hexp]
    split
    · rfl
    · rw [hexp]
  next => rfl

/-- How tokens that lead to a pass leave nothing behind. -/
inductive Vacates (leftover : Bool) (p : Pass) (ts : List (Token α)) : Prop
  /-- The last token is a mark. -/
  | dangling {before : List (Token α)} {t : Token α} {op : Operator} : ts = before ++ [t] →
      t.kind = .operator op → op.combines = false → Vacates leftover p ts
  /-- The other branch is not there. -/
  | branch {depth : Nat} : p.expecting = .elseBranch depth → Vacates leftover p ts
  /-- Something that is no token is left over after the end of a statement. -/
  | leftover : leftover = true → p.expecting = .another → Vacates leftover p ts

/-- How a run comes to leave nothing. -/
theorem Vacant.vacates {nested : Nested α} {rounding : Rounding} {env : Env} {source : String}
    {ts : List (Token α)} {leftover : Bool} {p : Pass} {vs vs' : Variables}
    (hp : (after nested rounding env source start ts).outcome vs = (.ok p, vs'))
    (h : (p.atEnd leftover).Vacant) : p.Vacates leftover ts := by
  rcases List.eq_nil_or_concat ts with rfl | ⟨before, t, rfl⟩
  · -- Without tokens no operand was read.
    rw [after_nil] at hp
    cases hp
    cases h.seen
  by_cases hmark : ∃ op, t.kind = .operator op ∧ op.combines = false
  · rcases hmark with ⟨op, ht, hop⟩
    exact .dangling List.concat_eq_append ht hop
  have hkind : GoesOn t.kind := by
    intro op ht
    cases hop : op.combines with
    | true => rfl
    | false => exact absurd ⟨op, ht, hop⟩ hmark
  -- The last token goes on with a statement, so the stack is filled after it.
  rw [List.concat_eq_append, after_append, outcome_bind_eq_ok] at hp
  rcases hp with ⟨q, mid, hq, hp⟩
  rw [after_cons, outcome_bind_eq_ok] at hp
  rcases hp with ⟨p', mid', hstep, hp⟩
  cases hp
  have hskips := (after_skips nested rounding env source start before
    (skips_of_expecting Expecting.noConfusion)).of_ok hq
  have hfilled := (feed_filled rounding q t.kind _ _ hskips hkind).of_ok
    ((outcome_locate_eq_ok _ _ _ _ _ _).mp hstep)
  have houter : p.outer = [] := (atEnd_outer p leftover).symm.trans h.outer
  have hmissing : missing? p.expecting = none := (missing?_atEnd p leftover).symm.trans h.missing
  rcases hfilled houter with ⟨depth, hexp⟩ | hholding
  · exact .branch hexp
  · -- What was there at the end of the tokens is gone because something is left over.
    have hempty := h.empty
    unfold atEnd at hempty
    split at hempty
    next hexp =>
      cases leftover with
      | true => exact .leftover rfl hexp
      | false => exact absurd hempty (hholding hmissing)
    next => exact absurd hempty (hholding hmissing)

/-- The last value to be handed outward is held, if there is one. -/
theorem Ends.holding {rounding : Rounding} {p q : Pass} {vs vs' : Variables}
    (h : p.Ends rounding vs q vs') : (q = p ∧ vs' = vs) ∨ q.Holding := by
  induction h with
  | here => exact Or.inl ⟨rfl, rfl⟩
  | handed _ _ _ hplace _ ih =>
      rcases ih with ⟨rfl, _⟩ | hholding
      · exact Or.inr (place_holding hplace)
      · exact Or.inr hholding

/-- The result of a frame in shape: the one value it holds, or null if it holds
    nothing. -/
theorem result_eq_ok_iff {f : Frame} {n : Nat} (h : f.Shaped n) (v : Value) :
    f.result = .ok v ↔
      f.seen = true ∧ (f.stack = [.value v] ∨ v = .null ∧ f.stack = []) := by
  have halt := h.alternates
  unfold Frame.result
  cases f.seen with
  | false => simp only [Bool.not_false, if_true, reduceCtorEq, Bool.false_eq_true, false_and]
  | true =>
      -- Two entries or more are an error, and a shaped stack of one entry is a value.
      rcases hst : f.stack with _ | ⟨w | o, _ | ⟨e, below⟩⟩
      · simp [eq_comm]
      · simp
      · simp
      · -- A single operator does not alternate with anything.
        rw [hst] at halt
        cases halt.1
      · simp

/-- A run that ends with an empty stack ends where its tokens end. -/
theorem Final.vacant {nested : Nested α} {rounding : Rounding} {env : Env} {source : String}
    {reading : Reading α} {q : Pass} {vs vs' : Variables}
    (h : Final nested rounding env source reading vs q vs') (hseen : q.frame.seen = true)
    (hempty : q.frame.stack = []) :
    ∃ leftover p, reading.ending = .finished leftover ∧
      (after nested rounding env source start reading.tokens).outcome vs = (.ok p, vs') ∧
      (p.atEnd leftover).Vacant := by
  rcases h with ⟨leftover, p, mid, hending, hp, hends, houter, hmissing⟩
  rcases hends.holding with ⟨rfl, rfl⟩ | hholding
  · exact ⟨leftover, p, hending, hp, houter, hseen, hmissing, hempty⟩
  · exact absurd hempty (hholding hmissing)

/-- When a run comes to a value: when one value is left, or, with null as the
    value, when nothing is left. -/
theorem outcome_run_eq_ok_iff_stack (nested : Nested α) (rounding : Rounding) (env : Env)
    (source : String) (reading : Reading α) (v : Value) (vs vs' : Variables) :
    (run nested rounding env source reading).outcome vs = (.ok v, vs') ↔
      (∃ q, Final nested rounding env source reading vs q vs' ∧ q.frame.seen = true ∧
        q.frame.stack = [.value v]) ∨
      v = .null ∧ ∃ leftover p, reading.ending = .finished leftover ∧
        (after nested rounding env source start reading.tokens).outcome vs = (.ok p, vs') ∧
        (p.atEnd leftover).Vacant := by
  rw [outcome_run_eq_ok_iff_final]
  constructor
  · rintro ⟨q, hq, hresult⟩
    -- An empty stack at the end is the one case that has to be traced back to the last token.
    rcases (result_eq_ok_iff hq.shaped.frame v).mp hresult with ⟨hseen, hst | ⟨rfl, hst⟩⟩
    · exact Or.inl ⟨q, hq, hseen, hst⟩
    · exact Or.inr ⟨rfl, hq.vacant hseen hst⟩
  · rintro (⟨q, hq, hseen, hst⟩ | ⟨rfl, leftover, p, hending, hp, hvacant⟩)
    · exact ⟨q, hq, (result_eq_ok_iff hq.shaped.frame v).mpr ⟨hseen, Or.inl hst⟩⟩
    · have hq : Final nested rounding env source reading vs (p.atEnd leftover) vs' :=
        ⟨leftover, p, vs', hending, hp, .here _ _, hvacant.outer, hvacant.missing⟩
      exact ⟨_, hq, (result_eq_ok_iff hq.shaped.frame _).mpr
        ⟨hvacant.seen, Or.inr ⟨rfl, hvacant.empty⟩⟩⟩

/-- What the outermost frame comes to where nothing is missing. -/
theorem stop_outermost (frame : Frame) {expecting : Expecting} (hexp : expecting ≠ .another)
    (hmissing : missing? expecting = none) (regroupings : Nat) (rounding : Rounding)
    (leftover : Bool) :
    (⟨frame, expecting, [], regroupings⟩ : Pass).stop rounding (.finished leftover) =
      Eval.ofExcept frame.result := by
  have hatEnd := atEnd_of_ne_another (p := ⟨frame, expecting, [], regroupings⟩) hexp leftover
  simp only [stop, hatEnd, finish, hmissing]

/-- An operator that follows the only value of the outermost frame, at the end of
    the tokens: it is refused, or the pass after it comes to what is left. -/
theorem operator_dangling (rounding : Rounding) (leftover : Bool) {p : Pass} {v : Value}
    {op : Operator} (houter : p.outer = []) (hexp : p.expecting = .statement)
    (hseen : p.frame.seen = true) (hst : p.frame.stack = [.value v])
    (hop : op ≠ .endOfStatement) :
    (∃ q, p.operator rounding op v [] = pure q ∧
      q.stop rounding (.finished leftover) = Eval.ofExcept (op.dangle v)) ∨
    ∃ cause, p.operator rounding op v [] = fail cause ∧ op.dangle v = .error cause := by
  obtain ⟨frame, expecting, outer, regroupings⟩ := p
  subst houter hexp
  replace hseen : frame.seen = true := hseen
  replace hst : frame.stack = [.value v] := hst
  have hkept : frame.result = .ok v := by
    simp only [Frame.result, hseen, hst, Bool.not_true, Bool.false_eq_true, if_false]
  have hdropped : ({ frame with stack := [] } : Frame).result = .ok .null := by
    simp only [Frame.result, hseen, Bool.not_true, Bool.false_eq_true, if_false]
  -- A value that is kept is the result, and one that is dropped leaves null.
  have hskip : (⟨frame, .statementEnd, [], regroupings⟩ : Pass).stop rounding
      (.finished leftover) = Eval.ofExcept (.ok v) := by
    rw [stop_outermost frame Expecting.noConfusion rfl, hkept]
  have hdrop (e : Expecting) (he : e ≠ .another) (hmissing : missing? e = none) :
      (⟨{ frame with stack := [] }, e, [], regroupings⟩ : Pass).stop rounding
        (.finished leftover) = Eval.ofExcept (.ok .null) := by
    rw [stop_outermost _ he hmissing, hdropped]
  have hstatement := hdrop .statement Expecting.noConfusion rfl
  cases hcombines : op.combines with
  | true =>
      rw [operator_of_combines rounding _ v [] hcombines, Operator.dangle_of_combines hcombines]
      exact Or.inl ⟨_, rfl, rfl⟩
  | false =>
      cases op with
      | and =>
          cases v with
          | bool b =>
              cases b with
              | true => exact Or.inl ⟨_, rfl, hstatement⟩
              | false => exact Or.inl ⟨_, rfl, hskip⟩
          | _ => exact Or.inl ⟨_, rfl, hstatement⟩
      | or =>
          cases v with
          | bool b =>
              cases b with
              | true => exact Or.inl ⟨_, rfl, hskip⟩
              | false => exact Or.inl ⟨_, rfl, hstatement⟩
          | _ => exact Or.inl ⟨_, rfl, hstatement⟩
      | ternary =>
          cases v with
          | bool b =>
              cases b with
              | true => exact Or.inl ⟨_, rfl, hstatement⟩
              | false => exact Or.inl ⟨_, rfl, hdrop _ Expecting.noConfusion rfl⟩
          | _ => exact Or.inr ⟨_, rfl, rfl⟩
      | ternaryElse => exact Or.inl ⟨_, rfl, hskip⟩
      | endOfStatement => exact absurd rfl hop
      | _ => cases hcombines

/-- A run whose tokens end with an operator that follows the only value of the
    outermost frame. -/
theorem outcome_run_dangling (nested : Nested α) (rounding : Rounding) (env : Env)
    (source : String) {before : List (Token α)} {t : Token α} {op : Operator} {leftover : Bool}
    {p : Pass} {v : Value} {vs mid : Variables} (ht : t.kind = .operator op)
    (hop : op ≠ .endOfStatement)
    (hp : (after nested rounding env source start before).outcome vs = (.ok p, mid))
    (hexp : p.expecting = .statement) (houter : p.outer = []) (hst : p.frame.stack = [.value v]) :
    (run nested rounding env source ⟨before ++ [t], .finished leftover⟩).outcome vs =
      ((Eval.ofExcept (op.dangle v)).locate source t.span.stop).outcome mid := by
  have hbegun : p.Begun :=
    (after_begun nested rounding env source start before begun_start).of_ok hp
  have hseen : p.frame.seen = true := hbegun.seen_of_stack (by rw [hst]; exact List.cons_ne_nil _ _)
  have hlast : lastStop 0 (before ++ [t]) = t.span.stop := by
    simp only [lastStop, List.foldl_append, List.foldl_cons, List.foldl_nil]
  have hstep : p.step nested rounding env source t =
      (p.operator rounding op v []).locate source t.span.stop := by
    simp only [step, ht, feed, hexp, feedStatement, hst]
  unfold run
  rw [runFrom_eq, after_append, bind_assoc, outcome_bind_of_ok _ _ _ _ _ hp, after_cons, hstep,
    hlast]
  -- Some operators take their one operand and let the pass end, the others fail at once.
  rcases operator_dangling rounding leftover houter hexp hseen hst hop with
    ⟨q, hq, hstop⟩ | ⟨cause, hcause, hdangle⟩
  · rw [hq, locate, mapError_pure, pure_bind, after_nil, pure_bind, hstop]
  · rw [hcause, hdangle]
    rfl

/-- A run of a text or a program comes to a value in two cases. Either one value
    is left by its last statement, and that is the value. Or nothing is left, and
    the value is null: the tokens end with a mark, or in front of a branch that is
    not there, or something that is no token follows an end of statement. An
    operator that is the last token after the only value of the outermost frame
    is therefore no error unless it combines operands or is a condition that is no
    boolean. -/
theorem run_eq_ok_iff (nested : Nested α) (rounding : Rounding) (env : Env) (source : String)
    (reading : Reading α) :
    (∀ v vs vs', (run nested rounding env source reading).outcome vs = (.ok v, vs') ↔
      (∃ q, Final nested rounding env source reading vs q vs' ∧ q.frame.seen = true ∧
        q.frame.stack = [.value v]) ∨
      v = .null ∧ ∃ leftover p, reading.ending = .finished leftover ∧
        (after nested rounding env source start reading.tokens).outcome vs = (.ok p, vs') ∧
        (p.atEnd leftover).Vacant ∧ p.Vacates leftover reading.tokens) ∧
    ∀ before t op leftover p v vs mid, reading = ⟨before ++ [t], .finished leftover⟩ →
      t.kind = .operator op → op ≠ .endOfStatement →
      (after nested rounding env source start before).outcome vs = (.ok p, mid) →
      p.expecting = .statement → p.outer = [] → p.frame.stack = [.value v] →
        (run nested rounding env source reading).outcome vs =
          ((Eval.ofExcept (op.dangle v)).locate source t.span.stop).outcome mid := by
  refine ⟨fun v vs vs' => ?_, ?_⟩
  · rw [outcome_run_eq_ok_iff_stack]
    -- Where the pass ends with nothing, the last token says why.
    refine or_congr_right (and_congr_right fun _ => ?_)
    constructor
    · rintro ⟨leftover, p, hending, hp, hvacant⟩
      exact ⟨leftover, p, hending, hp, hvacant, hvacant.vacates hp⟩
    · rintro ⟨leftover, p, hending, hp, hvacant, _⟩
      exact ⟨leftover, p, hending, hp, hvacant⟩
  · rintro before t op leftover p v vs mid rfl ht hop hp hexp houter hst
    exact outcome_run_dangling nested rounding env source ht hop hp hexp houter hst

/-- `1 &&` comes to null. -/
theorem run_eq_ok_iff_dangling :
    (Interpret.whole {} ⟨.null, .null⟩ "1 &&").outcome (.ofGlobals .empty) =
      (.ok .null, .ofGlobals .empty) := by
  have hread : Token.read "1 &&" =
      ⟨[⟨.operand (.literal (.int 1)), ⟨0, 1⟩, false⟩] ++ [⟨.operator .and, ⟨2, 4⟩, false⟩],
        .finished false⟩ := by
    rw [Token.read_eq 5 (by decide)]
    rfl
  have hrun := (run_eq_ok_iff (Interpret.evaluator {} ⟨.null, .null⟩) .halfDown ⟨.null, .null⟩
    "1 &&" (Token.read "1 &&")).2 _ _ .and false _ (.int 1) (.ofGlobals .empty) _ hread rfl
    Operator.noConfusion rfl rfl rfl rfl
  rw [Interpret.whole_eq, outcome_map, hrun]
  rfl

end Pass

end Reckon
