import Reckon.Pass
import Reckon.Proofs.Outcome

/-!
# Runs of a Pass

A pass maps each token to the pass after it, and what is proved about passes is
proved token by token. This module separates the reading of the tokens from
what happens at their end (`runFrom_eq`), so that a run can be cut anywhere
(`after_append`), and says once and for all what a single token can do
(`feed_cases`).

A token does one of four things. It may be refused. It may be an operand that
the pass takes: the operand is then evaluated, and its value goes to the slot
that the pass had for it (`slot?`). It may end the statement. Everything else
is a `Turn`: no operand is evaluated, nothing is stored, and the pass only
changes its mind about what comes next. Where a pass has no slot, operands are
read and never evaluated (`feed_congr`), which is all that skipping means.

## Main definitions

* `Operator.combines`: The operators that a pass applies to operands.
* `Pass.step`: Reading one token, errors placed.
* `Pass.after`: The pass after some tokens.
* `Pass.slot?`: Where the value of an operand would go, if it comes next.
* `Pass.ready`: The pass as it takes an operand.
* `Pass.Turn`: What a token can do to a pass besides evaluating and closing.
* `Pass.Placed`: What putting a value in its place does to a pass.

## Theorems

* `Pass.runFrom_eq`: A run is its tokens and then its end.
* `Pass.after_append`: A run can be cut at any token.
* `Pass.after_invariant`: What steps keep is kept by a run.
* `Pass.outcome_run_eq_ok`: A run that comes to a value.
* `Pass.feed_operand`: An operand for which there is a slot.
* `Pass.feed_assign`: The target of an assignment, for the value of which there is a slot.
* `Pass.feed_congr`: An operand that is not taken is not evaluated.
* `Pass.feed_cases`: What a token can do.
* `Pass.placed_of_place`: What a value in its place leaves as it was.
* `Pass.outcome_step_operand`: A token that is an operand, where no statement has ended.
* `Pass.runFrom_operand`: A run over a single operand.
* `Pass.handed_ensures`: A value handed outward.
-/

namespace Reckon

/-- Whether an operator is applied to two operands as soon as the right one is
    there. The others decide what becomes of a statement. -/
def Operator.combines : Operator → Bool
  | .and | .or | .ternary | .ternaryElse | .endOfStatement => false
  | _ => true

/-- A text that is ill-formed in another way does not blame the layout of a
    stack. -/
theorem Cause.illFormed_ne_malformed {problem : Problem} (h : problem ≠ .malformed) :
    Cause.illFormed problem ≠ .illFormed .malformed :=
  fun heq => h (Cause.illFormed.inj heq)

/-- The kind of a token that is an operator. -/
theorem Token.Kind.eq_operator_of_operator? {α : Type} {kind : Token.Kind α} {op : Operator}
    (h : kind.operator? = some op) : kind = .operator op := by
  cases kind with
  | operator op' =>
      simp only [Token.Kind.operator?, Option.some.injEq] at h
      rw [h]
  | operand o => cases h
  | assign name => cases h

/-- Whether a regrouping has begun. -/
def Expecting.regroups : Expecting → Bool
  | .regroup _ _ _ | .regroupRight _ _ _ _ => true
  | _ => false

namespace Pass

variable {α : Type}

/-- The pass after one more token, with the errors placed at its end. -/
def step (nested : Nested α) (rounding : Rounding) (env : Env) (source : String) (p : Pass)
    (t : Token α) : Eval Pass :=
  (p.feed rounding t.kind (t.map nested.text).text (t.value nested env source)).locate source
    t.span.stop

/-- The pass after some more tokens. -/
def after (nested : Nested α) (rounding : Rounding) (env : Env) (source : String) (p : Pass)
    (ts : List (Token α)) : Eval Pass :=
  ts.foldlM (step nested rounding env source) p

/-- The offset at which the last of some tokens ends, or `cursor` if there is
    none. -/
def lastStop (cursor : Nat) (ts : List (Token α)) : Nat :=
  ts.foldl (fun _ t => t.span.stop) cursor

/-- A run is the reading of its tokens and then its end. -/
theorem runFrom_eq (nested : Nested α) (rounding : Rounding) (env : Env) (source : String)
    (ending : Reading.End) (cursor : Nat) (p : Pass) (ts : List (Token α)) :
    runFrom nested rounding env source ending cursor p ts =
      (after nested rounding env source p ts >>= fun q =>
        (q.stop rounding ending).locate source (lastStop cursor ts)) := by
  induction ts generalizing cursor p with
  | nil =>
      rw [after, List.foldlM_nil, pure_bind]
      rfl
  | cons t ts ih =>
      rw [after, List.foldlM_cons, bind_assoc]
      simp only [runFrom, ih]
      rfl

/-- A run can be cut at any token. -/
theorem after_append (nested : Nested α) (rounding : Rounding) (env : Env) (source : String)
    (p : Pass) (ts us : List (Token α)) :
    after nested rounding env source p (ts ++ us) =
      (after nested rounding env source p ts >>= fun q => after nested rounding env source q us) :=
  List.foldlM_append

theorem after_nil (nested : Nested α) (rounding : Rounding) (env : Env) (source : String)
    (p : Pass) : after nested rounding env source p [] = pure p :=
  rfl

theorem after_cons (nested : Nested α) (rounding : Rounding) (env : Env) (source : String)
    (p : Pass) (t : Token α) (ts : List (Token α)) :
    after nested rounding env source p (t :: ts) =
      (step nested rounding env source p t >>= fun q => after nested rounding env source q ts) :=
  List.foldlM_cons

/-- What every step keeps is kept by a run. -/
theorem after_invariant {I : Pass → Prop} {E : Error → Prop} (nested : Nested α)
    (rounding : Rounding) (env : Env) (source : String) (p : Pass) (ts : List (Token α))
    (h : I p)
    (hstep : ∀ t ∈ ts, ∀ q, I q → (q.step nested rounding env source t).Ensures I E) :
    (after nested rounding env source p ts).Ensures I E := by
  induction ts generalizing p with
  | nil => exact Eval.ensures_pure p h
  | cons t ts ih =>
      rw [after_cons]
      have hfirst := hstep t List.mem_cons_self p h
      exact Eval.ensures_bind hfirst fun q hq =>
        ih q hq fun u hu => hstep u (List.mem_cons_of_mem _ hu)

/-- A run comes to a value if its tokens lead to a pass that does. -/
theorem outcome_run_eq_ok (nested : Nested α) (rounding : Rounding) (env : Env)
    (source : String) (reading : Reading α) (v : Value) (vs vs' : Variables) :
    (run nested rounding env source reading).outcome vs = (.ok v, vs') ↔
      ∃ p mid, (after nested rounding env source start reading.tokens).outcome vs = (.ok p, mid) ∧
        (p.stop rounding reading.ending).outcome mid = (.ok v, vs') := by
  unfold run
  rw [runFrom_eq, Eval.outcome_bind_eq_ok]
  simp only [Eval.outcome_locate_eq_ok]

/-- Where the value of an operand goes if one comes next. There is no such
    place while tokens are skipped, and where an operator has to come. -/
def slot? (p : Pass) : Option Slot :=
  match p.expecting with
  | .statement =>
    match p.frame.stack with
    | .value _ :: _ => none
    | _ => some .first
  | .another => some .first
  | .right op => some (.right op)
  | .regroupRight op left right next => some (.regrouped op left right next)
  | _ => none

/-- The pass as it takes an operand. The value of a statement that has ended is
    dropped when another one starts. -/
def ready (p : Pass) : Pass :=
  match p.expecting with
  | .another => p.withStack []
  | _ => p

/-- Only between two statements is a pass changed before it takes an operand. -/
theorem ready_of_ne_another {p : Pass} (h : p.expecting ≠ .another) : p.ready = p := by
  unfold ready
  split
  next hexp => exact absurd hexp h
  next => rfl

theorem outer_ready (p : Pass) : p.ready.outer = p.outer := by
  unfold ready
  split <;> rfl

/-- Only between two statements does it matter what is left over at the end of
    the tokens. -/
theorem atEnd_of_ne_another {p : Pass} (h : p.expecting ≠ .another) (leftover : Bool) :
    p.atEnd leftover = p := by
  unfold atEnd
  split
  next hexp => exact absurd hexp h
  next => rfl

/-- Where there is a slot, an operand is evaluated and put there, and the target of an
    assignment starts a frame. -/
theorem feed_slot (rounding : Rounding) (p : Pass) (slot : Slot) (shown : String)
    (value : Operand α → Eval Value) (h : p.slot? = some slot) :
    (∀ o, p.feed rounding (.operand o) shown value = p.ready.operand rounding slot (value o)) ∧
      ∀ name, p.feed rounding (.assign name) shown value = pure (p.ready.target slot name) := by
  -- Four of the seven states have a slot; the others contradict that there is one.
  cases hexp : p.expecting with
  | statement =>
      rcases hst : p.frame.stack with _ | ⟨v | op, below⟩
      · simp only [slot?, hexp, hst, Option.some.injEq] at h
        simp only [feed, ready, hexp, feedStatement, hst, h, implies_true, and_self]
      · simp only [slot?, hexp, hst, reduceCtorEq] at h
      · simp only [slot?, hexp, hst, Option.some.injEq] at h
        simp only [feed, ready, hexp, feedStatement, hst, h, implies_true, and_self]
  | another =>
      simp only [slot?, hexp, Option.some.injEq] at h
      simp only [feed, ready, hexp, feedStatement, withStack, h, implies_true, and_self]
  | right op =>
      simp only [slot?, hexp, Option.some.injEq] at h
      simp only [feed, ready, hexp, feedRight, h, implies_true, and_self]
  | regroupRight op left right next =>
      simp only [slot?, hexp, Option.some.injEq] at h
      simp only [feed, ready, hexp, feedRight, h, implies_true, and_self]
  | regroup op left right => simp only [slot?, hexp, reduceCtorEq] at h
  | statementEnd => simp only [slot?, hexp, reduceCtorEq] at h
  | elseBranch depth => simp only [slot?, hexp, reduceCtorEq] at h

/-- An operand for which there is a slot is evaluated and put there. -/
theorem feed_operand (rounding : Rounding) (p : Pass) (slot : Slot) (o : Operand α)
    (shown : String) (value : Operand α → Eval Value) (h : p.slot? = some slot) :
    p.feed rounding (.operand o) shown value = p.ready.operand rounding slot (value o) :=
  (feed_slot rounding p slot shown value h).1 o

/-- The target of an assignment, where there is a slot for the value, starts a frame. -/
theorem feed_assign (rounding : Rounding) (p : Pass) (slot : Slot) (name : String)
    (shown : String) (value : Operand α → Eval Value) (h : p.slot? = some slot) :
    p.feed rounding (.assign name) shown value = pure (p.ready.target slot name) :=
  (feed_slot rounding p slot shown value h).2 name

/-- An operand for which there is no slot is not evaluated: how it would be
    evaluated makes no difference. -/
theorem feed_operand_of_slot?_none (rounding : Rounding) (p : Pass) (o : Operand α)
    (shown : String) (value value' : Operand α → Eval Value) (h : p.slot? = none) :
    p.feed rounding (.operand o) shown value = p.feed rounding (.operand o) shown value' := by
  -- Without a slot the operand is refused or skipped before anything is evaluated.
  cases hexp : p.expecting with
  | statement =>
      rcases hst : p.frame.stack with _ | ⟨v | op, below⟩
      · simp only [slot?, hexp, hst, reduceCtorEq] at h
      · simp only [feed, hexp, feedStatement, hst]
      · simp only [slot?, hexp, hst, reduceCtorEq] at h
  | another => simp only [slot?, hexp, reduceCtorEq] at h
  | right op => simp only [slot?, hexp, reduceCtorEq] at h
  | regroupRight op left right next => simp only [slot?, hexp, reduceCtorEq] at h
  | regroup op left right => simp only [feed, hexp]
  | statementEnd => simp only [feed, hexp]
  | elseBranch depth => simp only [feed, hexp]

/-- A token that is no operand is read without evaluating one. -/
theorem feed_of_not_operand (rounding : Rounding) (p : Pass) (kind : Token.Kind α)
    (shown : String) (value value' : Operand α → Eval Value) (h : ∀ o, kind ≠ .operand o) :
    p.feed rounding kind shown value = p.feed rounding kind shown value' := by
  cases kind with
  | operand o => exact absurd rfl (h o)
  | operator op =>
      rcases hst : p.frame.stack with _ | ⟨v | o, below⟩ <;>
        cases hexp : p.expecting <;>
          simp only [feed, hexp, feedStatement, feedRight, withStack, hst]
  | assign name =>
      rcases hst : p.frame.stack with _ | ⟨v | o, below⟩ <;>
        cases hexp : p.expecting <;>
          simp only [feed, hexp, feedStatement, feedRight, withStack, hst]

/-- Only the operand that a pass takes is evaluated. Two ways of evaluating
    operands that agree on it lead to the same pass. -/
theorem feed_congr (rounding : Rounding) (p : Pass) (kind : Token.Kind α) (shown : String)
    (value value' : Operand α → Eval Value) (vs : Variables)
    (h : ∀ o, kind = .operand o → p.slot?.isSome →
      (value o).outcome vs = (value' o).outcome vs) :
    (p.feed rounding kind shown value).outcome vs =
      (p.feed rounding kind shown value').outcome vs := by
  by_cases hk : ∃ o, kind = .operand o
  · rcases hk with ⟨o, rfl⟩
    cases hs : p.slot? with
    | some slot =>
        rw [feed_operand rounding p slot o shown value hs,
          feed_operand rounding p slot o shown value' hs]
        exact Eval.outcome_bind_congr _ _ _ _ _ (h o rfl (by rw [hs]; rfl)) fun _ _ _ => rfl
    | none => rw [feed_operand_of_slot?_none rounding p o shown value value' hs]
  · rw [feed_of_not_operand rounding p kind shown value value' fun o ho => hk ⟨o, ho⟩]

/-- An operator that combines operands waits for its right one. -/
theorem operator_of_combines (rounding : Rounding) (p : Pass) {op : Operator} (v : Value)
    (below : Stack) (h : op.combines = true) :
    p.operator rounding op v below = pure { p with expecting := .right op } := by
  cases op with
  | and | or | ternary | ternaryElse | endOfStatement => cases h
  | _ => rfl

/-- A frame that no end of statement has closed hands nothing outward. -/
theorem settle_of_not_closed (rounding : Rounding) (frame : Frame) (expecting : Expecting)
    (regroupings : Nat) (outer : List Assignment) (h : frame.closed = false) :
    settle rounding frame expecting regroupings outer =
      pure ⟨frame, expecting, outer, regroupings⟩ := by
  cases outer <;> simp only [settle, h]

/-- What a token can do to a pass besides having an operand evaluated and
    closing the statement. -/
inductive Turn (p : Pass) : Pass → Prop
  /-- The token is skipped, or a mark between statements. -/
  | stay : Turn p p
  /-- The value of the statement before is dropped. -/
  | restart : p.expecting = .another → Turn p (p.withStack [])
  /-- The value on top is dropped. -/
  | drop {v : Value} {below : Stack} : p.expecting = .statement →
      p.frame.stack = .value v :: below → Turn p (p.withStack below)
  /-- An operator waits for its right operand. -/
  | await {v : Value} {below : Stack} {op : Operator} : p.expecting = .statement →
      p.frame.stack = .value v :: below → op.combines →
      Turn p { p with expecting := .right op }
  /-- The rest of the statement is skipped. -/
  | skip {v : Value} {below : Stack} : p.expecting = .statement →
      p.frame.stack = .value v :: below → Turn p { p with expecting := .statementEnd }
  /-- A false condition: a branch is skipped. -/
  | skipBranch {below : Stack} : p.expecting = .statement →
      p.frame.stack = .value (.bool false) :: below →
      Turn p { p.withStack [] with expecting := .elseBranch 0 }
  /-- A branch inside the one that is skipped is opened or closed. -/
  | nest {depth depth' : Nat} : p.expecting = .elseBranch depth →
      Turn p { p with expecting := .elseBranch depth' }
  /-- The other branch starts. -/
  | resume : p.expecting = .elseBranch 0 → Turn p { p with expecting := .statement }
  /-- An operator takes the right one of two operands that do not fit. -/
  | regroup {op next : Operator} {left right : Value} :
      p.expecting = .regroup op left right → next.isStructural = false →
      Turn p { p with expecting := .regroupRight op left right next }
  /-- An assignment starts a frame. -/
  | target {slot : Slot} {name : String} : p.slot? = some slot →
      Turn p (p.ready.target slot name)

/-- Whether an end of statement closes the statement being read. It does so
    after a value and while tokens are skipped. -/
def Closes (p : Pass) : Prop :=
  (p.expecting = .statement ∧ ∃ v below, p.frame.stack = .value v :: below) ∨
    p.expecting = .statementEnd ∨ ∃ depth, p.expecting = .elseBranch depth

/-- What a pass makes of a token: `Reads rounding p kind value m` says that the
    pass after the token comes from `m`. An assignment that a turn starts has
    the token for its target. -/
inductive Reads (rounding : Rounding) (p : Pass) (kind : Token.Kind α)
    (value : Operand α → Eval Value) : Eval Pass → Prop
  | turn {q : Pass} : Turn p q →
      (q.outer = p.outer ∨ ∃ a, kind = .assign a.target ∧ q.outer = a :: p.outer) →
      Reads rounding p kind value (pure q)
  | refuse {cause : Cause} : cause ≠ .illFormed .malformed →
      Reads rounding p kind value (Eval.fail cause)
  | take {slot : Slot} {o : Operand α} : p.slot? = some slot → kind = .operand o →
      Reads rounding p kind value (p.ready.operand rounding slot (value o))
  | close : p.Closes → kind = .operator .endOfStatement →
      Reads rounding p kind value (p.close rounding)

/-- The target of an assignment, where there is a slot for its value. -/
theorem target_reads (rounding : Rounding) (p : Pass) (slot : Slot) (name : String)
    (value : Operand α → Eval Value) (hslot : p.slot? = some slot) :
    Reads rounding p (.assign name) value (pure (p.ready.target slot name)) := by
  refine .turn (.target hslot) (Or.inr ⟨⟨name, slot, p.ready.frame⟩, rfl, ?_⟩)
  rw [target, outer_ready]

/-- An operator that follows a value. -/
theorem operator_reads (rounding : Rounding) (p : Pass) (op : Operator) (v : Value)
    (below : Stack) (value : Operand α → Eval Value) (hexp : p.expecting = .statement)
    (hst : p.frame.stack = .value v :: below) :
    Reads rounding p (.operator op) value (p.operator rounding op v below) := by
  -- Junctions, the two signs of a ternary and the semicolon act at once, and every other
  -- operator waits for its right operand.
  cases op with
  | and | or =>
      cases v with
      | bool b =>
          simp only [operator]
          split
          · exact .turn (.skip hexp hst) (Or.inl rfl)
          · exact .turn (.drop hexp hst) (Or.inl rfl)
      | _ => exact .turn (.drop hexp hst) (Or.inl rfl)
  | ternary =>
      cases v with
      | bool b =>
          cases b with
          | true => exact .turn (.drop hexp hst) (Or.inl rfl)
          | false => exact .turn (.skipBranch hexp hst) (Or.inl rfl)
      | _ => exact .refuse Cause.noConfusion
  | ternaryElse => exact .turn (.skip hexp hst) (Or.inl rfl)
  | endOfStatement => exact .close (Or.inl ⟨hexp, v, below, hst⟩) rfl
  | _ => exact .turn (.await hexp hst rfl) (Or.inl rfl)

/-- A token of a statement whose stack has no value on top. -/
theorem feedStatement_reads (rounding : Rounding) (p q : Pass) (kind : Token.Kind α)
    (shown : String) (value : Operand α → Eval Value) (hslot : p.slot? = some .first)
    (hready : p.ready = q) (hstay : Turn p q)
    (hst : ∀ v below, q.frame.stack ≠ .value v :: below) :
    Reads rounding p kind value (q.feedStatement rounding kind shown value) := by
  cases kind with
  | operator op =>
      -- With no value on top, the end of a statement is empty and an operator has no operand.
      have hop : q.feedStatement rounding (.operator op) shown value =
          if op == .endOfStatement && q.outer.isEmpty then pure q
          else Eval.fail (.illFormed (.missingBefore op)) := by
        rcases hq : q.frame.stack with _ | ⟨v | o, below⟩
        · simp only [feedStatement, hq]
        · exact absurd hq (hst v below)
        · simp only [feedStatement, hq]
      rw [hop]
      split
      · exact .turn hstay (Or.inl (hready ▸ p.outer_ready))
      · exact .refuse (Cause.illFormed_ne_malformed Problem.noConfusion)
  | operand o =>
      have ho : q.feedStatement rounding (.operand o) shown value =
          q.operand rounding .first (value o) := by
        rcases hq : q.frame.stack with _ | ⟨v | o, below⟩
        · simp only [feedStatement, hq]
        · exact absurd hq (hst v below)
        · simp only [feedStatement, hq]
      rw [ho, ← hready]
      exact .take hslot rfl
  | assign name =>
      have ha : q.feedStatement rounding (.assign name) shown value =
          pure (q.target .first name) := by
        rcases hq : q.frame.stack with _ | ⟨v | o, below⟩
        · simp only [feedStatement, hq]
        · exact absurd hq (hst v below)
        · simp only [feedStatement, hq]
      rw [ha, ← hready]
      exact target_reads rounding p .first name value hslot

/-- The token after an operator. -/
theorem feedRight_reads (rounding : Rounding) (p : Pass) (op : Operator) (slot : Slot)
    (kind : Token.Kind α) (shown : String) (value : Operand α → Eval Value)
    (hslot : p.slot? = some slot) (hready : p.ready = p) :
    Reads rounding p kind value (p.feedRight rounding op slot kind shown value) := by
  cases kind with
  | operator op' =>
      exact .refuse (Cause.illFormed_ne_malformed Problem.noConfusion)
  | operand o =>
      have h : Reads rounding p (.operand o) value (p.ready.operand rounding slot (value o)) :=
        .take hslot rfl
      rwa [hready] at h
  | assign name =>
      have h : Reads rounding p (.assign name) value (pure (p.ready.target slot name)) :=
        target_reads rounding p slot name value hslot
      rwa [hready] at h

/-- What a token can do. -/
theorem feed_cases (rounding : Rounding) (p : Pass) (kind : Token.Kind α) (shown : String)
    (value : Operand α → Eval Value) :
    Reads rounding p kind value (p.feed rounding kind shown value) := by
  cases hexp : p.expecting with
  | statement =>
      simp only [feed, hexp]
      rcases hst : p.frame.stack with _ | ⟨v | o, below⟩
      · refine feedStatement_reads rounding p p kind shown value ?_ ?_ .stay ?_
        · simp only [slot?, hexp, hst]
        · simp only [ready, hexp]
        · simp only [hst, ne_eq, reduceCtorEq, not_false_eq_true, implies_true]
      · -- After a value an operator has to come.
        cases kind with
        | operator op =>
            simp only [feedStatement, hst]
            exact operator_reads rounding p op v below value hexp hst
        | _ =>
            simp only [feedStatement, hst]
            exact .refuse (Cause.illFormed_ne_malformed Problem.noConfusion)
      · refine feedStatement_reads rounding p p kind shown value ?_ ?_ .stay ?_
        · simp only [slot?, hexp, hst]
        · simp only [ready, hexp]
        · simp only [hst, ne_eq, List.cons.injEq, reduceCtorEq, false_and, not_false_eq_true,
            implies_true]
  | another =>
      -- Any token drops the value of the statement before.
      simp only [feed, hexp]
      refine feedStatement_reads rounding p (p.withStack []) kind shown value ?_ ?_
        (.restart hexp) ?_
      · simp only [slot?, hexp]
      · simp only [ready, hexp]
      · simp only [withStack, ne_eq, reduceCtorEq, not_false_eq_true, implies_true]
  | right op =>
      simp only [feed, hexp]
      refine feedRight_reads rounding p op (.right op) kind shown value ?_ ?_
      · simp only [slot?, hexp]
      · simp only [ready, hexp]
  | regroupRight op left right next =>
      simp only [feed, hexp]
      refine feedRight_reads rounding p next (.regrouped op left right next) kind shown value ?_ ?_
      · simp only [slot?, hexp]
      · simp only [ready, hexp]
  | regroup op left right =>
      simp only [feed, hexp]
      cases hk : kind.operator? with
      | none => exact .refuse Cause.noConfusion
      | some next =>
          -- A structural operator does not take the operand, so they stay incompatible.
          simp only []
          split
          · exact .refuse Cause.noConfusion
          next hnext =>
            exact .turn (.regroup hexp (by simpa only [Bool.not_eq_true] using hnext)) (Or.inl rfl)
  | statementEnd =>
      simp only [feed, hexp]
      split
      next hk => exact .close (Or.inr (Or.inl hexp)) (Token.Kind.eq_operator_of_operator? hk)
      next => exact .turn .stay (Or.inl rfl)
  | elseBranch depth =>
      simp only [feed, hexp]
      split
      next hk => exact .turn (.nest hexp) (Or.inl rfl)
      next hk => exact .turn (.resume hexp) (Or.inl rfl)
      next hk => exact .turn (.nest hexp) (Or.inl rfl)
      next hk =>
        exact .close (Or.inr (Or.inr ⟨_, hexp⟩)) (Token.Kind.eq_operator_of_operator? hk)
      next => exact .turn .stay (Or.inl rfl)

/-- What a pass is like after a value was put in its place: between two tokens
    of the same statement, with the same frames around it. Only a value that
    comes first makes a frame one that has read an operand. -/
structure Placed (slot : Slot) (p q : Pass) : Prop where
  outer_eq : q.outer = p.outer
  closed_eq : q.frame.closed = p.frame.closed
  seen : slot = .first ∨ p.frame.seen = true → q.frame.seen = true
  expecting : q.expecting = .statement ∨ ∃ op left right, q.expecting = .regroup op left right

theorem placed_of_reduce {rounding : Rounding} {regrouping : Bool} {slot : Slot} {p q : Pass}
    {s : Stack} (hslot : slot ≠ .first) (h : p.reduce rounding regrouping s = .ok q) :
    Placed slot p q := by
  unfold reduce at h
  split at h
  · cases h
  · cases h
    exact ⟨rfl, rfl, fun hs => hs.resolve_left hslot, Or.inl rfl⟩
  · split at h
    · cases h
    · cases h
      exact ⟨rfl, rfl, fun hs => hs.resolve_left hslot, Or.inr ⟨_, _, _, rfl⟩⟩

@[simp]
theorem regroupings_counted (p : Pass) : p.counted.regroupings = p.regroupings + 1 := rfl

@[simp]
theorem regrouped_counted (p : Pass) : p.counted.frame.regrouped = p.frame.regrouped + 1 := rfl

/-- A value that completes a regrouping, where one more can be counted. -/
theorem place_regrouped {rounding : Rounding} {p : Pass} (hcount : p.regroupings < countLimit)
    (op : Operator) (left right : Value) (next : Operator) (v : Value) :
    p.place rounding (.regrouped op left right next) v =
      p.counted.reduce rounding true
        (.op next :: .value v :: .value right :: .op op :: .value left :: p.frame.stack) :=
  if_neg (Nat.not_le.mpr hcount)

theorem place_regrouped_of_le {rounding : Rounding} {p : Pass}
    (hcount : countLimit ≤ p.regroupings) (op : Operator) (left right : Value) (next : Operator)
    (v : Value) :
    p.place rounding (.regrouped op left right next) v = .error (.failure .overflow) :=
  if_pos hcount

/-- Where none can be counted any more, there is no value that completes one. -/
theorem place_regrouped_eq_ok {rounding : Rounding} {p q : Pass} {op next : Operator}
    {left right v : Value} (h : p.place rounding (.regrouped op left right next) v = .ok q) :
    p.regroupings < countLimit ∧
      p.counted.reduce rounding true
        (.op next :: .value v :: .value right :: .op op :: .value left :: p.frame.stack) =
          .ok q := by
  rcases Nat.lt_or_ge p.regroupings countLimit with hcount | hcount
  · rw [place_regrouped hcount] at h
    exact ⟨hcount, h⟩
  · rw [place_regrouped_of_le hcount] at h
    cases h

/-- Putting a value in its place. -/
theorem placed_of_place {rounding : Rounding} {slot : Slot} {p q : Pass} {v : Value}
    (h : p.place rounding slot v = .ok q) : Placed slot p q := by
  cases slot with
  | first =>
      cases h
      exact ⟨rfl, rfl, fun _ => rfl, Or.inl rfl⟩
  | right op => exact placed_of_reduce Slot.noConfusion h
  | regrouped op left right next =>
      -- Counting the regrouping changes nothing that is said here.
      have hslot : Slot.regrouped op left right next ≠ .first := Slot.noConfusion
      rcases placed_of_reduce hslot (place_regrouped_eq_ok h).2 with ⟨houter, hclosed, hseen, hexp⟩
      exact ⟨houter, hclosed, hseen, hexp⟩

/-- What a pass does not await after a value was put in its place. -/
theorem Placed.expecting_ne {slot : Slot} {p q : Pass} (h : Placed slot p q) {e : Expecting}
    (hstatement : Expecting.statement ≠ e)
    (hregroup : ∀ op left right, Expecting.regroup op left right ≠ e) : q.expecting ≠ e := by
  rcases h.expecting with hexp | ⟨op, left, right, hexp⟩
  · rw [hexp]
    exact hstatement
  · rw [hexp]
    exact hregroup op left right

theorem Placed.ne_another {slot : Slot} {p q : Pass} (h : Placed slot p q) :
    q.expecting ≠ .another :=
  h.expecting_ne Expecting.noConfusion fun _ _ _ => Expecting.noConfusion

theorem Placed.ne_statementEnd {slot : Slot} {p q : Pass} (h : Placed slot p q) :
    q.expecting ≠ .statementEnd :=
  h.expecting_ne Expecting.noConfusion fun _ _ _ => Expecting.noConfusion

theorem Placed.ne_elseBranch {slot : Slot} {p q : Pass} (h : Placed slot p q) (depth : Nat) :
    q.expecting ≠ .elseBranch depth :=
  h.expecting_ne Expecting.noConfusion fun _ _ _ => Expecting.noConfusion

/-- In a frame that no end of statement has closed, an operand is evaluated and put
    in its place, and that is all. -/
theorem operand_of_not_closed (rounding : Rounding) (p : Pass) (slot : Slot) (value : Eval Value)
    (h : p.frame.closed = false) :
    p.operand rounding slot value =
      value >>= fun v => Eval.ofExcept (p.place rounding slot v) := by
  unfold operand
  refine bind_congr fun v => ?_
  cases hplace : p.place rounding slot v with
  | error cause => rfl
  | ok q =>
      have hclosed : q.frame.closed = false := (placed_of_place hplace).closed_eq.trans h
      exact settle_of_not_closed rounding _ _ _ _ hclosed

/-- In such a frame, a token that is an operand. -/
theorem outcome_step_operand (p : Pass) {nested : Nested α} {rounding : Rounding} {env : Env}
    {source : String} {t : Token α} {o : Operand α} {slot : Slot} {v : Value}
    {vs mid : Variables} (hclosed : p.frame.closed = false) (hexp : p.expecting ≠ .another)
    (hslot : p.slot? = some slot) (ht : t.kind = .operand o)
    (hv : (t.value nested env source o).outcome vs = (.ok v, mid)) :
    (p.step nested rounding env source t).outcome vs =
      ((Eval.ofExcept (p.place rounding slot v)).locate source t.span.stop).outcome mid := by
  unfold step
  rw [ht, feed_operand rounding p slot o _ _ hslot, ready_of_ne_another hexp,
    operand_of_not_closed rounding p slot _ hclosed, Eval.locate, Eval.outcome_mapError,
    Eval.outcome_bind_of_ok _ _ _ _ _ hv]
  exact (Eval.outcome_mapError _ _ _).symm

/-- A run over a single operand comes to what the operand does, wherever a statement
    with nothing around it may start. -/
theorem runFrom_operand {p : Pass} (hslot : p.slot? = some .first)
    (hstack : p.ready.frame.stack = []) (hclosed : p.ready.frame.closed = false)
    (houter : p.ready.outer = []) (nested : Nested α) (rounding : Rounding) (env : Env)
    (source : String) {t : Token α} {o : Operand α} (ht : t.kind = .operand o) (leftover : Bool)
    (cursor : Nat) :
    runFrom nested rounding env source (.finished leftover) cursor p [t] =
      (t.value nested env source o).locate source t.span.stop := by
  rw [runFrom_eq, after_cons]
  unfold step
  rw [ht, feed_operand rounding p .first o _ _ hslot,
    operand_of_not_closed rounding p.ready .first _ hclosed]
  generalize p.ready = q at hstack hclosed houter ⊢
  obtain ⟨⟨stack, closed, seen, regrouped⟩, expecting, outer, regroupings⟩ := q
  cases hstack
  cases hclosed
  cases houter
  rw [Eval.locate, Eval.mapError_bind, bind_assoc, bind_assoc]
  -- The value is put on the empty stack, and is what the pass comes to.
  conv => rhs; rw [← bind_pure ((t.value nested env source o).locate source t.span.stop)]
  rfl

theorem run_operand (nested : Nested α) (rounding : Rounding) (env : Env) (source : String)
    {t : Token α} {o : Operand α} (ht : t.kind = .operand o) (leftover : Bool) :
    run nested rounding env source ⟨[t], .finished leftover⟩ =
      (t.value nested env source o).locate source t.span.stop :=
  runFrom_operand (p := start) rfl rfl rfl rfl nested rounding env source ht leftover 0

/-- Handing the value of a frame outward: it is stored, put in its place by
    `place`, and the pass goes on with `k`. What is ensured of the places is
    what `k` may rely on. -/
theorem handed_ensures {β : Type} {Q : Pass → Prop} {R : β → Prop} {E : Error → Prop}
    (frame : Frame) (target : String) (place : Value → Except Cause Pass) (k : Pass → Eval β)
    (hassigned : (Eval.ofExcept (frame.assigned target)).Ensures (fun _ => True) E)
    (hplace : ∀ v, (Eval.ofExcept (place v)).Ensures Q E)
    (hk : ∀ q, Q q → (k q).Ensures R E) :
    (do
      let v ← Eval.ofExcept (frame.assigned target)
      Eval.assign target v
      let q ← Eval.ofExcept (place v)
      k q).Ensures R E := by
  refine Eval.ensures_bind hassigned fun v _ => ?_
  refine Eval.ensures_bind (Eval.ensures_assign target v) fun _ _ => ?_
  exact Eval.ensures_bind (hplace v) hk

end Pass

end Reckon
