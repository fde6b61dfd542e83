import Reckon.Proofs.Ending
import Reckon.Proofs.Exchange
import Reckon.Proofs.Joining

/-!
# Junctions that are Decided

The left operand of `&&` or `||` may decide what the junction comes to. The
right operand is then not evaluated: the rest of the statement is skipped, and
what the left operand came to is what the statement comes to.

The left operand of a junction is what the pass holds when it meets the
junction, and that is the value of everything before it, with one exception. An
assignment takes the rest of the statement as its value. If the text before the
junction ends inside an assignment, the junction belongs to the value that is
assigned, and it is that value that has to decide it (`Pass.Decides`).

A statement that has not been ended is never left, so the pass at the end of
the first text is known well enough (`Pass.Open`) to say what the junction does
to it.

## Main definitions

* `Operator.DecidedBy`: The value that decides a junction.
* `Unended`: Tokens without an end of statement.
* `Pass.Open`: A pass whose statements have not been ended.
* `Pass.Decides`: A pass on which a junction is decided.

## Theorems

* `Pass.after_open`: Tokens without an end of statement leave a pass open.
* `Pass.after_statementEnd`: Skipped tokens do nothing.
* `Pass.feed_junction`: A junction that is decided.
* `Interpret.whole_junction`: A decided junction skips what follows, and an
  undecided one does not.
-/

namespace Reckon

open Eval

variable {α : Type}

/-- The value of the left operand that decides a junction. -/
def Operator.DecidedBy (op : Operator) (b : Bool) : Prop :=
  op = .and ∧ b = false ∨ op = .or ∧ b = true

theorem Operator.DecidedBy.joins {op : Operator} {b : Bool} (h : op.DecidedBy b) : op.joins := by
  rcases h with ⟨rfl, _⟩ | ⟨rfl, _⟩ <;> rfl

/-- Tokens without an end of statement. -/
def Unended (ts : List (Token α)) : Prop :=
  ∀ t ∈ ts, t.operator? ≠ some .endOfStatement

instance (ts : List (Token α)) : Decidable (Unended ts) :=
  inferInstanceAs (Decidable (∀ t ∈ ts, t.operator? ≠ some .endOfStatement))

namespace Pass

/-- A pass whose statements have not been ended. A branch that is skipped has
    left nothing behind. -/
structure Open (p : Pass) : Prop where
  closed : p.frame.closed = false
  ne_another : p.expecting ≠ .another
  branch : ∀ depth, p.expecting = .elseBranch depth → p.frame.stack = []

theorem open_start : start.Open :=
  ⟨rfl, Expecting.noConfusion, fun _ => Expecting.noConfusion⟩

/-- A pass that is not in a branch that is skipped. -/
theorem open_of_statement {p : Pass} (hclosed : p.frame.closed = false)
    (hexp : p.expecting ≠ .another) (hbranch : ∀ depth, p.expecting ≠ .elseBranch depth) :
    p.Open :=
  ⟨hclosed, hexp, fun depth h => absurd h (hbranch depth)⟩

theorem Turn.open {p q : Pass} (ht : Turn p q) (h : p.Open) : q.Open := by
  cases ht with
  | stay => exact h
  | restart hexp => exact absurd hexp h.ne_another
  | skipBranch _ _ => exact ⟨h.closed, Expecting.noConfusion, fun _ _ => rfl⟩
  | nest hexp => exact ⟨h.closed, Expecting.noConfusion, fun _ _ => h.branch _ hexp⟩
  | target _ => exact open_of_statement rfl Expecting.noConfusion fun _ => Expecting.noConfusion
  | _ => exact open_of_statement h.closed Expecting.noConfusion fun _ => Expecting.noConfusion

/-- A value in its place leaves a pass open. -/
theorem Placed.open {slot : Slot} {p q : Pass} (h : Placed slot p q)
    (hclosed : p.frame.closed = false) : q.Open :=
  open_of_statement (h.closed_eq.trans hclosed) h.ne_another h.ne_elseBranch

/-- A token that is no end of statement leaves a pass open. -/
theorem feed_open (rounding : Rounding) (p : Pass) (kind : Token.Kind α) (shown : String)
    (value : Operand α → Eval Value) (h : p.Open)
    (hkind : kind.operator? ≠ some .endOfStatement) :
    (p.feed rounding kind shown value).Ensures Open fun _ => True := by
  have hcases := feed_cases rounding p kind shown value
  generalize p.feed rounding kind shown value = m at hcases
  cases hcases with
  | turn ht => exact ensures_pure _ (ht.open h)
  | refuse _ => exact ensures_fail _ trivial
  | @take slot o _ _ =>
      refine ensures_bind (ensures_true _) fun v _ => ?_
      refine ensures_bind (ensures_ofExcept _ (fun q hq => placed_of_place hq)
        fun _ _ => trivial) fun q hq => ?_
      -- The statement was not closed, so settling has nothing to do.
      rw [ready_of_ne_another h.ne_another] at hq
      have hopen := hq.open h.closed
      rw [settle_of_not_closed _ _ _ _ _ hopen.closed]
      exact ensures_pure _ hopen
  | close _ hend => exact absurd (congrArg Token.Kind.operator? hend) hkind

/-- Tokens without an end of statement leave a pass open. -/
theorem after_open (nested : Nested α) (rounding : Rounding) (env : Env) (source : String)
    (p : Pass) (ts : List (Token α)) (h : p.Open) (hts : Unended ts) :
    (after nested rounding env source p ts).Ensures Open fun _ => True := by
  refine after_invariant nested rounding env source p ts h fun t ht q hq => ?_
  exact ensures_mapError (feed_open rounding q t.kind _ _ hq (hts t ht)) fun _ _ => trivial

/-- Tokens that are skipped do nothing. -/
theorem after_statementEnd (nested : Nested α) (rounding : Rounding) (env : Env)
    (source : String) (p : Pass) (ts : List (Token α)) (h : p.expecting = .statementEnd)
    (hts : Unended ts) : after nested rounding env source p ts = pure p := by
  induction ts with
  | nil => rfl
  | cons t ts ih =>
      have hstep : p.step nested rounding env source t = pure p := by
        unfold step
        simp only [feed, h]
        split
        next hend => exact absurd hend (hts t List.mem_cons_self)
        next => rfl
      rw [after_cons, hstep, pure_bind]
      exact ih fun u hu => hts u (List.mem_cons_of_mem _ hu)

/-- A frame with a value to be stored holds that value alone. -/
theorem stack_of_assigned {f : Frame} {target : String} {v : Value}
    (h : f.assigned target = .ok v) : f.stack = [.value v] := by
  unfold Frame.assigned at h
  split at h
  next w hst =>
    cases h
    exact hst
  next => cases h
  next => cases h

/-- A frame whose result is not null holds that result alone. -/
theorem stack_of_result {f : Frame} {v : Value} (h : f.result = .ok v) (hv : v ≠ .null) :
    f.stack = [.value v] := by
  unfold Frame.result at h
  split at h
  · cases h
  · split at h
    next w hst =>
      cases h
      exact hst
    next => cases h
    next =>
      cases h
      exact absurd rfl hv

/-- What a pass is like that ends with one value although no statement has been
    ended: it skips the rest of its statement, or holds one value, which is that
    one unless it is to be stored. -/
theorem Open.of_ends {p q : Pass} (h : p.Open) {rounding : Rounding} {v : Value}
    {vs vs' : Variables} (hends : p.Ends rounding vs q vs') (hmissing : missing? q.expecting = none)
    (hst : q.frame.stack = [.value v]) :
    p.expecting = .statementEnd ∨
      p.expecting = .statement ∧ ∃ w, p.frame.stack = [.value w] ∧ (p.outer = [] → w = v) := by
  -- Nothing is missing in a pass that ends, and there is one value in its frame.
  have hvalue : missing? p.expecting = none ∧
      ∃ w, p.frame.stack = [.value w] ∧ (p.outer = [] → w = v) := by
    cases hends with
    | here => exact ⟨hmissing, v, hst, fun _ => rfl⟩
    | handed houter hnone hassigned =>
        refine ⟨hnone, _, stack_of_assigned hassigned, fun hnil => ?_⟩
        rw [houter] at hnil
        cases hnil
  rcases hvalue with ⟨hnone, hstack⟩
  cases hexp : p.expecting with
  | statement => exact Or.inr ⟨rfl, hstack⟩
  | statementEnd => exact Or.inl rfl
  | another => exact absurd hexp h.ne_another
  | elseBranch depth =>
      -- A branch that is skipped has an empty stack.
      rcases hstack with ⟨w, hw, _⟩
      rw [h.branch depth hexp] at hw
      cases hw
  | _ =>
      rw [hexp] at hnone
      cases hnone

/-- What a pass is like that comes to a boolean although no statement has been
    ended. -/
theorem Open.of_stop {p : Pass} (h : p.Open) {rounding : Rounding} {leftover b : Bool}
    {vs vs' : Variables}
    (hstop : (p.stop rounding (.finished leftover)).outcome vs = (.ok (.bool b), vs')) :
    p.expecting = .statementEnd ∨
      p.expecting = .statement ∧ ∃ v, p.frame.stack = [.value v] ∧
        (p.outer = [] → v = .bool b) := by
  simp only [stop, atEnd_of_ne_another h.ne_another] at hstop
  rcases (outcome_finish_eq_ok _ _ _ _ _).mp hstop with ⟨q, hends, _, hmissing, hresult⟩
  exact h.of_ends hends hmissing (stack_of_result hresult Value.noConfusion)

/-- Skipping the rest of a statement does not change what it comes to. -/
theorem stop_statementEnd {p : Pass} (h : p.expecting = .statement ∨ p.expecting = .statementEnd)
    (rounding : Rounding) (leftover leftover' : Bool) :
    ({ p with expecting := .statementEnd } : Pass).stop rounding (.finished leftover) =
      p.stop rounding (.finished leftover') := by
  rcases h with hexp | hexp
  · simp only [stop, atEnd, hexp]
    cases p.outer <;> rfl
  · simp only [stop, atEnd, hexp]

/-- A pass on which a junction is decided by `b`: no assignment is being read, or
    the rest of its value is skipped anyway, or its value so far is `b`. -/
def Decides (b : Bool) (p : Pass) : Prop :=
  p.outer = [] ∨ p.expecting = .statementEnd ∨ ∃ below, p.frame.stack = .value (.bool b) :: below

/-- A junction that is decided skips the rest of the statement. -/
theorem feed_junction {op : Operator} {b : Bool} (hop : op.DecidedBy b) (rounding : Rounding)
    (p : Pass) (shown : String) (value : Operand α → Eval Value)
    (h : p.expecting = .statementEnd ∨
      p.expecting = .statement ∧ ∃ below, p.frame.stack = .value (.bool b) :: below) :
    p.feed rounding (.operator op) shown value = pure { p with expecting := .statementEnd } := by
  rcases h with hexp | ⟨hexp, below, hst⟩
  · have hp : ({ p with expecting := .statementEnd } : Pass) = p := by rw [← hexp]
    rw [hp]
    simp only [feed, hexp, Token.Kind.operator?]
    rcases hop with ⟨rfl, _⟩ | ⟨rfl, _⟩ <;> rfl
  · simp only [feed, hexp, feedStatement, hst]
    rcases hop with ⟨rfl, rfl⟩ | ⟨rfl, rfl⟩ <;> rfl

/-- A junction that is not decided drops its left operand. -/
theorem feed_junction_of_ne {op : Operator} {b : Bool} (hop : op.DecidedBy b)
    (rounding : Rounding) (p : Pass) (shown : String) (value : Operand α → Eval Value) {v : Value}
    (hexp : p.expecting = .statement) (hst : p.frame.stack = [.value v]) (hv : v ≠ .bool b) :
    p.feed rounding (.operator op) shown value = pure (p.withStack []) := by
  simp only [feed, hexp, feedStatement, hst]
  cases v with
  | bool b' =>
      rcases hop with ⟨rfl, rfl⟩ | ⟨rfl, rfl⟩
      · cases b' with
        | false => exact absurd rfl hv
        | true => rfl
      · cases b' with
        | false => rfl
        | true => exact absurd rfl hv
  | _ => rcases hop with ⟨rfl, _⟩ | ⟨rfl, _⟩ <;> rfl

/-- An assignment without a value fails. -/
theorem stop_withStack_nil_ne_ok {p : Pass} (h : p.outer ≠ []) (rounding : Rounding)
    (leftover : Bool) (v : Value) (vs vs' : Variables) :
    ((p.withStack []).stop rounding (.finished leftover)).outcome vs ≠ (.ok v, vs') := by
  intro hstop
  cases houter : p.outer with
  | nil => exact h houter
  | cons a outer =>
      simp only [stop, atEnd, withStack, houter, finish, missing?, Frame.assigned] at hstop
      cases hstop

end Pass

theorem Unended.of_same {ts us : List (Token α)} (h : Unended ts)
    (hsame : List.Forall₂ Token.Same ts us) : Unended us := by
  induction hsame with
  | nil => exact h
  | @cons t u ts us htu _ ih =>
      intro w hw
      rcases List.mem_cons.mp hw with rfl | hw
      · rw [Token.operator?, htu.kind_eq]
        exact h t List.mem_cons_self
      · exact ih (fun t' ht' => h t' (List.mem_cons_of_mem _ ht')) w hw

namespace Interpret

/-- Whether results become booleans makes no difference inside an expression. -/
theorem nested_booleanMode (config : Config) (mode : Bool) (env : Env) (text : String) :
    nested { config with booleanMode := mode } env text = nested config env text := by
  have ih (inner : Within text) : nested { config with booleanMode := mode } env inner.1 =
      nested config env inner.1 := nested_booleanMode config mode env inner.1
  rw [nested, nested]
  simp only [ih]
  rfl
termination_by text.length
decreasing_by exact inner.2

/-- Only a boolean becomes a boolean, unless every result does. -/
theorem eq_bool_of_coerceNested {config : Config} {v : Value} {b : Bool}
    (h : config.coerceNested v = .bool b) : v = .bool b := by
  unfold Config.coerceNested at h
  split at h
  · exact h
  · unfold Value.narrow at h
    split at h
    · split at h <;> cases h
    · exact h

theorem coerceWhole_bool (config : Config) (b : Bool) :
    config.coerceWhole (.bool b) = .bool b := by
  unfold Config.coerceWhole Config.coerceNested
  split
  · rfl
  · split <;> rfl

/-- A text that comes to a boolean where results do not become booleans is a
    text whose pass comes to it. -/
theorem run_of_whole_eq_bool {config : Config} {env : Env} {text : String} {b : Bool}
    {vs vs' : Variables}
    (h : (whole { config with booleanMode := false } env text).outcome vs = (.ok (.bool b), vs')) :
    (Pass.run (evaluator config env) config.rounding env text (Token.read text)).outcome vs =
      (.ok (.bool b), vs') := by
  -- The expressions inside are evaluated in the same way in both modes.
  have hevaluator : evaluator { config with booleanMode := false } env = evaluator config env := by
    unfold evaluator
    congr 1
    exact funext fun text => nested_booleanMode config false env text
  rw [whole_eq, hevaluator, outcome_map] at h
  rcases hrun : (Pass.run (evaluator config env) config.rounding env text
    (Token.read text)).outcome vs with ⟨e | v, mid⟩
  · rw [hrun] at h
    cases h
  · rw [hrun] at h
    simp only [Except.map, Prod.mk.injEq, Except.ok.injEq] at h
    rw [eq_bool_of_coerceNested h.1, h.2]

/-- A text that comes to a value has no token that ends too far out. -/
theorem narrow_of_whole {config : Config} {env : Env} {text : String} {v : Value}
    {vs vs' : Variables} (h : (whole config env text).outcome vs = (.ok v, vs')) :
    Token.Narrow text := by
  intro pos hpos
  rw [whole_eq, outcome_map, Prod.mk.injEq] at h
  rcases hrun : (Pass.run (evaluator config env) config.rounding env text
    (Token.read text)).outcome vs with ⟨e | w, mid⟩
  · rw [hrun] at h
    cases h.1
  · rcases (Pass.outcome_run_eq_ok _ _ _ _ _ _ _ _).mp hrun with ⟨p, mid', _, hstop⟩
    rw [hpos] at hstop
    cases hstop

/-- A pass that reads a text, an operator after it and another text, as far as
    the operator. -/
theorem after_joined (config : Config) (env : Env) {op : Operator} (hop : op.joins)
    {first second : String} {leftover leftover₂ : Bool}
    (hfirst : (Token.read first).ending = .finished leftover)
    (hsecond : (Token.read second).ending = .finished leftover₂)
    (hnarrow : Token.Narrow (first ++ " " ++ op.symbol ++ " " ++ second)) {p : Pass}
    {vs mid : Variables} (hp : (pass config env first).outcome vs = (.ok p, mid)) :
    ∃ (ts us : List (Token String)) (t : Token String),
      Token.read (first ++ " " ++ op.symbol ++ " " ++ second) =
        ⟨ts ++ t :: us, .finished leftover₂⟩ ∧ t.kind = .operator op ∧
      List.Forall₂ Token.Same (Token.read second).tokens us ∧
      (Pass.after (evaluator config env) config.rounding env
        (first ++ " " ++ op.symbol ++ " " ++ second) Pass.start ts).outcome vs = (.ok p, mid) := by
  rcases Token.read_joined first second hop hfirst hsecond hnarrow with
    ⟨ts, t, us, hread, hts, ht, hus⟩
  exact ⟨ts, us, t, hread, ht, hus,
    (Pass.after_moved _ _ _ _ _ _ hts).of_ok hp⟩

section

-- The first text was read to its end, and `p` is the pass over it, which comes to `b`.
variable {config : Config} {env : Env} {op : Operator} {b : Bool} {first : String}
  {leftover : Bool} {p : Pass} {vs mid vs' : Variables} (hop : op.DecidedBy b)
  (hending : (Token.read first).ending = .finished leftover)
  (hp : (pass config env first).outcome vs = (.ok p, mid)) (hopen : p.Open)
  (hstop : (p.stop config.rounding (.finished leftover)).outcome mid = (.ok (.bool b), vs'))

include hop hending hp hopen hstop

/-- What follows a junction that is decided is skipped. -/
theorem whole_junction_of_decides (hdecides : p.Decides b) {second : String} {leftover₂ : Bool}
    (hsecond : (Token.read second).ending = .finished leftover₂)
    (hunended : Unended (Token.read second).tokens)
    (hnarrow : Token.Narrow (first ++ " " ++ op.symbol ++ " " ++ second)) :
    (whole config env (first ++ " " ++ op.symbol ++ " " ++ second)).outcome vs =
      (.ok (.bool b), vs') := by
  -- Either the statement is skipped already, or the value on top decides the junction.
  have hready : p.expecting = .statementEnd ∨
      p.expecting = .statement ∧ ∃ below, p.frame.stack = .value (.bool b) :: below := by
    rcases hopen.of_stop hstop with hexp | ⟨hexp, v, hst, hv⟩
    · exact Or.inl hexp
    · rcases hdecides with houter | hexp' | hbelow
      · exact Or.inr ⟨hexp, [], by rw [hst, hv houter]⟩
      · exact Or.inl hexp'
      · exact Or.inr ⟨hexp, hbelow⟩
  rcases after_joined config env hop.joins hending hsecond hnarrow hp with
    ⟨ts, us, t, hread, ht, hus, hafter⟩
  have hstep (source : String) : p.step (evaluator config env) config.rounding env source t =
      pure { p with expecting := .statementEnd } := by
    unfold Pass.step
    rw [ht, Pass.feed_junction hop config.rounding p _ _ hready]
    rfl
  have hrun : (Pass.run (evaluator config env) config.rounding env
      (first ++ " " ++ op.symbol ++ " " ++ second)
      (Token.read (first ++ " " ++ op.symbol ++ " " ++ second))).outcome vs =
        (.ok (.bool b), vs') := by
    rw [Pass.outcome_run_eq_ok, hread]
    refine ⟨{ p with expecting := .statementEnd }, mid, ?_, ?_⟩
    · rw [Pass.after_append, outcome_bind_of_ok _ _ _ _ _ hafter, Pass.after_cons, hstep,
        pure_bind, Pass.after_statementEnd _ _ _ _ _ _ rfl (hunended.of_same hus)]
      rfl
    · rw [Pass.stop_statementEnd (hready.symm.imp And.left id) _ _ leftover]
      exact hstop
  rw [whole_eq, outcome_map, hrun]
  simp only [Except.map, coerceWhole_bool]

/-- A junction that is not decided is missing its right operand if nothing
    follows it: it belongs to an assignment. -/
theorem whole_junction_empty_ne_ok (hdecides : ¬ p.Decides b)
    (hnarrow : Token.Narrow (first ++ " " ++ op.symbol ++ " " ++ "")) (v : Value)
    (vs'' : Variables) :
    (whole config env (first ++ " " ++ op.symbol ++ " " ++ "")).outcome vs ≠ (.ok v, vs'') := by
  unfold Pass.Decides at hdecides
  rw [not_or, not_or] at hdecides
  rcases hdecides with ⟨houter, hexp', hbelow⟩
  rcases hopen.of_stop hstop with hexp | ⟨hexp, w, hst, _⟩
  · exact absurd hexp hexp'
  -- The junction drops the value, and the assignment is left with none.
  have hw : w ≠ .bool b := by
    rintro rfl
    exact hbelow ⟨[], hst⟩
  have hempty : (Token.read "").ending = .finished false :=
    congrArg Reading.ending Token.read_empty
  rcases after_joined config env hop.joins hending hempty hnarrow hp with
    ⟨ts, us, t, hread, ht, hus, hafter⟩
  rw [Token.read_empty] at hus
  cases hus
  have hstep (source : String) : p.step (evaluator config env) config.rounding env source t =
      pure (p.withStack []) := by
    unfold Pass.step
    rw [ht, Pass.feed_junction_of_ne hop config.rounding p _ _ hexp hst hw]
    rfl
  intro hwhole
  rw [whole_eq, outcome_map, Prod.mk.injEq] at hwhole
  rcases hrun : (Pass.run (evaluator config env) config.rounding env
    (first ++ " " ++ op.symbol ++ " " ++ "")
    (Token.read (first ++ " " ++ op.symbol ++ " " ++ ""))).outcome vs with ⟨e | u, mid'⟩
  · rw [hrun] at hwhole
    cases hwhole.1
  · rw [hread, Pass.outcome_run_eq_ok] at hrun
    rcases hrun with ⟨q, mid₂, hq, hstop'⟩
    rw [Pass.after_append, outcome_bind_of_ok _ _ _ _ _ hafter, Pass.after_cons, hstep,
      pure_bind, Pass.after_nil] at hq
    cases hq
    exact Pass.stop_withStack_nil_ne_ok houter _ _ _ _ _ hstop'

end

/-- If the text before a junction comes to the value that decides it, then what
    follows the junction is skipped, whatever it is: the joined text comes to the
    same value, with the same uses of the variables. The value is that before
    results become booleans; and where the first text ends inside an assignment,
    the junction is part of the value to be assigned, which then has to decide
    it. If it does not, what follows is not skipped. All of this is about joined
    texts in which no token ends too far out; the others come to no value
    (`narrow_of_whole`). The junction with nothing behind it has to be one of the
    former, as otherwise there are none. -/
theorem whole_junction (config : Config) (env : Env) {op : Operator} {b : Bool}
    (hop : op.DecidedBy b) (first : String) (vs vs' : Variables)
    (hunended : Unended (Token.read first).tokens)
    (hfirst : (whole { config with booleanMode := false } env first).outcome vs =
      (.ok (.bool b), vs'))
    (hnarrow : Token.Narrow (first ++ " " ++ op.symbol ++ " " ++ "")) :
    ∃ p mid, (pass config env first).outcome vs = (.ok p, mid) ∧
      (p.Decides b ↔ ∀ second leftover, (Token.read second).ending = .finished leftover →
        Unended (Token.read second).tokens →
        Token.Narrow (first ++ " " ++ op.symbol ++ " " ++ second) →
          (whole config env (first ++ " " ++ op.symbol ++ " " ++ second)).outcome vs =
            (.ok (.bool b), vs')) := by
  rcases (Pass.outcome_run_eq_ok _ _ _ _ _ _ _ _).mp (run_of_whole_eq_bool hfirst) with
    ⟨p, mid, hp, hstop⟩
  -- A first text with a fault could not have given a value.
  rcases hending : (Token.read first).ending with leftover | fault
  case fault =>
    rw [hending] at hstop
    cases hstop
  rw [hending] at hstop
  have hopen : p.Open :=
    (Pass.after_open _ _ _ _ _ _ Pass.open_start hunended).of_ok hp
  refine ⟨p, mid, hp, fun hdecides second leftover₂ hsecond hunended₂ hnarrow₂ => ?_,
    fun hskips => ?_⟩
  · exact whole_junction_of_decides hop hending hp hopen hstop hdecides hsecond hunended₂ hnarrow₂
  · -- A junction that is not decided fails even where nothing follows it.
    refine Classical.byContradiction fun hdecides => ?_
    refine whole_junction_empty_ne_ok hop hending hp hopen hstop hdecides hnarrow _ _
      (hskips "" false (congrArg Reading.ending Token.read_empty) ?_ hnarrow)
    rw [Token.read_empty]
    decide

/-- In `x = false && y` the assigned value decides the junction, and `y` is not
    looked up. -/
theorem whole_junction_assignment :
    (whole {} ⟨.null, .null⟩ "x = false && y").outcome (.ofGlobals .empty) =
      (.ok (.bool false), ⟨[], ⟨[("x", .bool false)]⟩, [.write "x" (.bool false)]⟩) := by
  have hread : Token.read "x = false" =
      ⟨[⟨.assign "x", ⟨0, 3⟩, false⟩, ⟨.operand (.literal (.bool false)), ⟨4, 9⟩, false⟩],
        .finished false⟩ := by
    rw [Token.read_eq 10 (by decide)]
    rfl
  have hfirst : (whole { ({} : Config) with booleanMode := false } ⟨.null, .null⟩
      "x = false").outcome (.ofGlobals .empty) =
        (.ok (.bool false), ⟨[], ⟨[("x", .bool false)]⟩, [.write "x" (.bool false)]⟩) := by
    rw [whole_eq, hread]
    rfl
  have hsecond : (Token.read "y").ending = .finished false ∧ Unended (Token.read "y").tokens := by
    rw [Token.read_eq 2 (by decide)]
    decide
  have htext : "x = false" ++ " " ++ Operator.and.symbol ++ " " ++ "y" = "x = false && y" := by
    rfl
  rcases whole_junction {} ⟨.null, .null⟩ (Or.inl ⟨rfl, rfl⟩) "x = false" (.ofGlobals .empty) _
    (by rw [hread]; decide) hfirst (Token.narrow_of_le (by decide)) with ⟨p, mid, hp, hskips⟩
  have hdecides : p.Decides false := by
    rw [pass, hread] at hp
    cases hp
    exact Or.inr (Or.inr ⟨[], rfl⟩)
  rw [← htext]
  exact hskips.mp hdecides "y" false hsecond.1 hsecond.2 (Token.narrow_of_le (by decide))

/-- What one might expect: a text before a junction that comes to the value that
    decides it makes the joined text come to that value, with the same uses of
    the variables. -/
def JunctionsSkip (config : Config) : Prop :=
  ∀ (env : Env) (op : Operator) (b : Bool) (first second : String) (leftover : Bool)
    (vs vs' : Variables), op.DecidedBy b → Unended (Token.read first).tokens →
    (Token.read second).ending = .finished leftover → Unended (Token.read second).tokens →
    (whole config env first).outcome vs = (.ok (.bool b), vs') →
      (whole config env (first ++ " " ++ op.symbol ++ " " ++ second)).outcome vs =
        (.ok (.bool b), vs')

/-- In `false == x = true && false` the junction belongs to the assignment, which
    makes the comparison come out true. -/
theorem not_junctionsSkip_default : ¬ JunctionsSkip {} := by
  intro h
  have hread : Token.read "false == x = true" =
      ⟨[⟨.operand (.literal (.bool false)), ⟨0, 5⟩, false⟩, ⟨.operator .eq, ⟨6, 8⟩, false⟩,
        ⟨.assign "x", ⟨9, 12⟩, false⟩, ⟨.operand (.literal (.bool true)), ⟨13, 17⟩, false⟩],
        .finished false⟩ := by
    rw [Token.read_eq 18 (by decide)]
    rfl
  have hreadJoined : Token.read "false == x = true && false" =
      ⟨[⟨.operand (.literal (.bool false)), ⟨0, 5⟩, false⟩, ⟨.operator .eq, ⟨6, 8⟩, false⟩,
        ⟨.assign "x", ⟨9, 12⟩, false⟩, ⟨.operand (.literal (.bool true)), ⟨13, 17⟩, false⟩,
        ⟨.operator .and, ⟨18, 20⟩, false⟩,
        ⟨.operand (.literal (.bool false)), ⟨21, 26⟩, false⟩], .finished false⟩ := by
    rw [Token.read_eq 27 (by decide)]
    rfl
  have hfirst : (whole {} ⟨.null, .null⟩ "false == x = true").outcome (.ofGlobals .empty) =
      (.ok (.bool false), ⟨[], ⟨[("x", .bool true)]⟩, [.write "x" (.bool true)]⟩) := by
    rw [whole_eq, hread]
    with_unfolding_all rfl
  have hjoined : (whole {} ⟨.null, .null⟩ "false == x = true && false").outcome
      (.ofGlobals .empty) =
        (.ok (.bool true), ⟨[], ⟨[("x", .bool false)]⟩, [.write "x" (.bool false)]⟩) := by
    rw [whole_eq, hreadJoined]
    with_unfolding_all rfl
  have hsecond : (Token.read "false").ending = .finished false ∧
      Unended (Token.read "false").tokens := by
    rw [Token.read_eq 6 (by decide)]
    decide
  have hskips := h ⟨.null, .null⟩ .and false "false == x = true" "false" false _ _
    (Or.inl ⟨rfl, rfl⟩) (by rw [hread]; decide) hsecond.1 hsecond.2 hfirst
  have htext : "false == x = true" ++ " " ++ Operator.and.symbol ++ " " ++ "false" =
      "false == x = true && false" := by rfl
  rw [htext, hjoined] at hskips
  cases hskips

/-- Where results become booleans, `0` comes to false but does not decide
    `0 && true`. -/
theorem not_junctionsSkip_booleanMode : ¬ JunctionsSkip { booleanMode := true } := by
  intro h
  have hread : Token.read "0" =
      ⟨[⟨.operand (.literal (.int 0)), ⟨0, 1⟩, false⟩], .finished false⟩ := by
    rw [Token.read_eq 2 (by decide)]
    rfl
  have hreadJoined : Token.read "0 && true" =
      ⟨[⟨.operand (.literal (.int 0)), ⟨0, 1⟩, false⟩, ⟨.operator .and, ⟨2, 4⟩, false⟩,
        ⟨.operand (.literal (.bool true)), ⟨5, 9⟩, false⟩], .finished false⟩ := by
    rw [Token.read_eq 10 (by decide)]
    rfl
  have hfirst : (whole { booleanMode := true } ⟨.null, .null⟩ "0").outcome (.ofGlobals .empty) =
      (.ok (.bool false), .ofGlobals .empty) := by
    rw [whole_eq, hread]
    with_unfolding_all rfl
  have hjoined : (whole { booleanMode := true } ⟨.null, .null⟩ "0 && true").outcome
      (.ofGlobals .empty) = (.ok (.bool true), .ofGlobals .empty) := by
    rw [whole_eq, hreadJoined]
    with_unfolding_all rfl
  have hsecond : (Token.read "true").ending = .finished false ∧
      Unended (Token.read "true").tokens := by
    rw [Token.read_eq 5 (by decide)]
    decide
  have hskips := h ⟨.null, .null⟩ .and false "0" "true" false _ _ (Or.inl ⟨rfl, rfl⟩)
    (by rw [hread]; decide) hsecond.1 hsecond.2 hfirst
  have htext : "0" ++ " " ++ Operator.and.symbol ++ " " ++ "true" = "0 && true" := by rfl
  rw [htext, hjoined] at hskips
  cases hskips

/-- It is not so, whether results become booleans or not. -/
theorem not_junctionsSkip : ¬ JunctionsSkip {} ∧ ¬ JunctionsSkip { booleanMode := true } :=
  ⟨not_junctionsSkip_default, not_junctionsSkip_booleanMode⟩

end Interpret

end Reckon
