import Reckon.Proofs.Chain
import Reckon.Proofs.Marking
import Reckon.Proofs.ShortCircuit

/-!
# Conditions and Branches

A condition chooses one of two branches. No tree tells where they start and end.
If the condition holds, the first branch is read until its value is followed by
a `:`, and the rest of the statement is skipped. If it does not hold, tokens are
skipped up to the `:` that belongs to it, which is found by counting the branches
that are opened and closed on the way (`depthAfter`).

Either way a branch comes to what it comes to alone. In a branch that is read, a
`:` that belongs to it is met only where the branch skips tokens anyway, or
leaves one value; and the branch starts over at a pass that differs from the
start of a run by a mark (`Pass.after_marked`). Assignments that are being read
when the `:` turns up end where the statement does.

## Main definitions

* `depthAfter`, `Balanced`: Counting the branches that are open.
* `Ternary`: A condition and two branches.

## Theorems

* `Pass.after_elseBranch`: A branch that is skipped.
* `Ternary.run_of_true`: A condition that holds.
* `Ternary.run_of_false`: A condition that does not hold.
* `Ternary.whole_eq_branch`: A ternary comes to one of its branches.
-/

namespace Reckon

open Eval

variable {α : Type}

/-- How many branches are open after some tokens that are skipped, with `depth` of
    them open before. There is no answer if the branch around them is closed. -/
def depthAfter : Nat → List (Token α) → Option Nat
  | depth, [] => some depth
  | depth, t :: ts =>
    match t.operator?, depth with
    | some .ternary, depth => depthAfter (depth + 1) ts
    | some .ternaryElse, 0 => none
    | some .ternaryElse, depth + 1 => depthAfter depth ts
    | _, depth => depthAfter depth ts

/-- Tokens that close every branch they open, and no other one. -/
def Balanced (ts : List (Token α)) : Prop :=
  depthAfter 0 ts = some 0

instance (ts : List (Token α)) : Decidable (Balanced ts) :=
  inferInstanceAs (Decidable (depthAfter 0 ts = some 0))

namespace Pass

/-- Tokens of a branch that is skipped. -/
theorem after_elseBranch (nested : Nested α) (rounding : Rounding) (env : Env) (source : String)
    (p : Pass) (ts : List (Token α)) (hts : Unended ts) (depth depth' : Nat)
    (hdepth : depthAfter depth ts = some depth') :
    after nested rounding env source { p with expecting := .elseBranch depth } ts =
      pure { p with expecting := .elseBranch depth' } := by
  -- The depth goes up and down with the signs, and nothing else is looked at.
  induction ts generalizing depth with
  | nil =>
      cases hdepth
      rfl
  | cons t ts ih =>
      have hrest : Unended ts := fun u hu => hts u (List.mem_cons_of_mem _ hu)
      have ht : t.kind.operator? ≠ some .endOfStatement := hts t List.mem_cons_self
      have hstep : ∃ next, depthAfter next ts = some depth' ∧
          step nested rounding env source { p with expecting := .elseBranch depth } t =
            pure { p with expecting := .elseBranch next } := by
        rcases hop : t.kind.operator? with _ | op
        · simp only [depthAfter, Token.operator?, hop] at hdepth
          refine ⟨depth, hdepth, ?_⟩
          simp only [step, feed, hop]
          rfl
        · cases op with
          | ternary =>
              simp only [depthAfter, Token.operator?, hop] at hdepth
              refine ⟨depth + 1, hdepth, ?_⟩
              simp only [step, feed, hop]
              rfl
          | ternaryElse =>
              cases depth with
              | zero =>
                  simp only [depthAfter, Token.operator?, hop] at hdepth
                  cases hdepth
              | succ depth =>
                  simp only [depthAfter, Token.operator?, hop] at hdepth
                  refine ⟨depth, hdepth, ?_⟩
                  simp only [step, feed, hop]
                  rfl
          | endOfStatement => exact absurd hop ht
          | _ =>
              simp only [depthAfter, Token.operator?, hop] at hdepth
              refine ⟨depth, hdepth, ?_⟩
              simp only [step, feed, hop]
              rfl
      rcases hstep with ⟨next, hnext, hstep⟩
      rw [after_cons, hstep, pure_bind]
      exact ih hrest next hnext

/-- The start of the other branch, after a branch that was read. -/
theorem feed_ternaryElse (rounding : Rounding) (p : Pass) (shown : String)
    (value : Operand α → Eval Value)
    (h : p.expecting = .statementEnd ∨
      p.expecting = .statement ∧ ∃ v below, p.frame.stack = .value v :: below) :
    p.feed rounding (.operator .ternaryElse) shown value =
      pure { p with expecting := .statementEnd } := by
  rcases h with hexp | ⟨hexp, v, below, hst⟩
  · have hp : ({ p with expecting := .statementEnd } : Pass) = p := by rw [← hexp]
    rw [hp]
    simp only [feed, hexp, Token.Kind.operator?]
  · simp only [feed, hexp, feedStatement, hst]
    rfl

end Pass

/-- A condition and the tokens of the two branches it chooses from. The first
    branch is a whole number of ternaries deep, so that the `:` between them is
    the one that belongs to the condition. -/
structure Ternary (α : Type) where
  condition : Term α
  question : Span
  first : List (Token α)
  colon : Span
  second : List (Token α)
  first_unended : Unended first
  first_balanced : Balanced first
  second_unended : Unended second
  second_ne_nil : second ≠ []

namespace Ternary

def tokens (t : Ternary α) : List (Token α) :=
  [t.condition.token, ⟨.operator .ternary, t.question, false⟩] ++
    (t.first ++ ⟨.operator .ternaryElse, t.colon, false⟩ :: t.second)

section

variable {nested : Nested α} {rounding : Rounding} {env : Env} {source : String}
  {t : Ternary α} {vs mid : Variables}

/-- A condition that holds starts over, and one that does not skips a branch. -/
theorem after_condition {b : Bool}
    (hc : (t.condition.value nested env source).outcome vs = (.ok (.bool b), mid)) :
    (Pass.after nested rounding env source Pass.start
      [t.condition.token, ⟨.operator .ternary, t.question, false⟩]).outcome vs =
        (.ok { Pass.start.marked with expecting := if b then .statement else .elseBranch 0 },
          mid) := by
  have hfirst : (Pass.start.step nested rounding env source t.condition.token).outcome vs =
      (.ok (Pass.holding (.bool b)), mid) := by
    rw [Pass.outcome_step_operand Pass.start rfl Expecting.noConfusion rfl rfl hc]
    rfl
  rw [Pass.after_cons, outcome_bind_of_ok _ _ _ _ _ hfirst]
  cases b <;> rfl

/-- If the condition holds and the first branch leaves one value, the second
    branch is skipped. -/
theorem run_of_true
    (hc : (t.condition.value nested env source).outcome vs = (.ok (.bool true), mid))
    {source' : String} {ts : List (Token α)} {leftover : Bool} {q : Pass} {v : Value}
    {vs' : Variables} (hsame : List.Forall₂ Token.Same t.first ts)
    (hfinal : Pass.Final nested rounding env source' ⟨ts, .finished leftover⟩ mid q vs')
    (hst : q.frame.stack = [.value v]) (leftover' : Bool) :
    (Pass.run nested rounding env source' ⟨ts, .finished leftover⟩).outcome mid = (.ok v, vs') ∧
      (Pass.run nested rounding env source ⟨t.tokens, .finished leftover'⟩).outcome vs =
        (.ok v, vs') := by
  rcases hfinal with ⟨_, p, mid', hending, hp, hends, houter, hmissing⟩
  cases hending
  have hpc : (Pass.after nested rounding env source Pass.start t.first).outcome mid =
      (.ok p, mid') := (Pass.after_moved nested rounding env source source' _ hsame).symm.of_ok hp
  have hopen : p.Open := (Pass.after_open _ _ _ _ _ _ Pass.open_start t.first_unended).of_ok hpc
  have hbegun : p.Begun := (Pass.after_begun _ _ _ _ _ _ Pass.begun_start).of_ok hpc
  rw [Pass.atEnd_of_ne_another hopen.ne_another] at hends
  have hresult : q.frame.result = .ok v := by
    have hseen := (hends.begun hbegun).seen_of_stack (by rw [hst]; exact List.cons_ne_nil _ _)
    simp only [Frame.result, hseen, hst, Bool.not_true, Bool.false_eq_true, if_false]
  have hstop : (p.stop rounding (.finished leftover)).outcome mid' = (.ok v, vs') := by
    simp only [Pass.stop, Pass.atEnd_of_ne_another hopen.ne_another]
    exact (Pass.outcome_finish_eq_ok _ _ _ _ _).mpr ⟨q, hends, houter, hmissing, hresult⟩
  refine ⟨(Pass.outcome_run_eq_ok _ _ _ _ _ _ _ _).mpr ⟨p, mid', hp, hstop⟩, ?_⟩
  -- The first branch leaves a value or is being skipped, so that the `:` ends it.
  have hready : p.expecting = .statementEnd ∨
      p.expecting = .statement ∧ ∃ w below, p.frame.stack = .value w :: below := by
    rcases hopen.of_ends hends hmissing hst with hexp | ⟨hexp, w, hw, _⟩
    · exact Or.inl hexp
    · exact Or.inr ⟨hexp, w, [], hw⟩
  have hseen : p.frame.seen = true := by
    rcases hready with hexp | ⟨_, w, below, hw⟩
    · exact hbegun.seen_of_expecting (by rw [hexp]; exact Expecting.noConfusion)
    · exact hbegun.seen_of_stack (by rw [hw]; exact List.cons_ne_nil _ _)
  have hfirst : (Pass.after nested rounding env source Pass.start.marked t.first).outcome mid =
      (.ok p.marked, mid') := by
    rw [Pass.after_marked, outcome_map, hpc]
    rfl
  have hcolon : p.marked.step nested rounding env source
      ⟨.operator .ternaryElse, t.colon, false⟩ =
        pure ({ p with expecting := .statementEnd } : Pass).marked := by
    unfold Pass.step
    rw [Pass.feed_marked, Pass.feed_ternaryElse rounding p _ _ hready]
    rfl
  have hafter : (Pass.after nested rounding env source Pass.start t.tokens).outcome vs =
      (.ok ({ p with expecting := .statementEnd } : Pass).marked, mid') := by
    rw [tokens, Pass.after_append, outcome_bind_of_ok _ _ _ _ _ (after_condition hc),
      Pass.after_append]
    refine (outcome_bind_of_ok _ _ _ _ _ hfirst).trans ?_
    rw [Pass.after_cons, hcolon, pure_bind,
      Pass.after_statementEnd _ _ _ _ _ _ rfl t.second_unended]
    rfl
  refine (Pass.outcome_run_eq_ok _ _ _ _ _ _ _ _).mpr ⟨_, mid', hafter, ?_⟩
  have hends' : ({ p with expecting := .statementEnd } : Pass).Begun :=
    Pass.begun_of_seen hseen hbegun.outer Expecting.noConfusion
  rw [Pass.stop_marked rounding hends' (fun _ => hseen) Expecting.noConfusion leftover' leftover',
    Pass.stop_statementEnd (hready.symm.imp And.left id) rounding leftover' leftover]
  exact hstop

/-- If the condition does not hold, the first branch is skipped. -/
theorem run_of_false
    (hc : (t.condition.value nested env source).outcome vs = (.ok (.bool false), mid))
    {source' : String} {ts : List (Token α)} (hsame : List.Forall₂ Token.Same t.second ts)
    (leftover leftover' : Bool) :
    Matches Eq
      ((Pass.run nested rounding env source ⟨t.tokens, .finished leftover⟩).outcome vs)
      ((Pass.run nested rounding env source' ⟨ts, .finished leftover'⟩).outcome mid) := by
  have hskipped : Pass.after nested rounding env source
      { Pass.start.marked with expecting := .elseBranch 0 } t.first =
        pure { Pass.start.marked with expecting := .elseBranch 0 } :=
    Pass.after_elseBranch _ _ _ _ _ _ t.first_unended 0 0 t.first_balanced
  have hcolon : Pass.step nested rounding env source
      { Pass.start.marked with expecting := .elseBranch 0 }
      ⟨.operator .ternaryElse, t.colon, false⟩ = pure Pass.start.marked := rfl
  have hafter : (Pass.after nested rounding env source Pass.start t.tokens).outcome vs =
      (Pass.marked <$> Pass.after nested rounding env source Pass.start t.second).outcome mid := by
    rw [tokens, Pass.after_append, outcome_bind_of_ok _ _ _ _ _ (after_condition hc),
      Pass.after_append]
    simp only [Bool.false_eq_true, if_false]
    rw [hskipped, pure_bind, Pass.after_cons, hcolon, pure_bind, Pass.after_marked]
  have hrun : (Pass.run nested rounding env source ⟨t.tokens, .finished leftover⟩).outcome vs =
      (Pass.after nested rounding env source Pass.start t.second >>= fun q =>
        (q.marked.stop rounding (.finished leftover)).locate source
          (Pass.lastStop 0 t.tokens)).outcome mid := by
    unfold Pass.run
    rw [Pass.runFrom_eq, outcome_bind, hafter, ← outcome_bind, bind_map_left]
  -- The second branch is read as it is alone, but for the mark on its frame.
  have hsecond : (Pass.after nested rounding env source Pass.start t.second).Ensures
      (fun q => (q.Begun ∧ q.Started) ∧ q.Open) fun _ => True := by
    refine ensures_and ?_ (Pass.after_open _ _ _ _ _ _ Pass.open_start t.second_unended)
    rcases List.exists_cons_of_ne_nil t.second_ne_nil with ⟨u, us, hus⟩
    have hu := t.second_unended u (by rw [hus]; exact List.mem_cons_self)
    rw [hus]
    exact Pass.after_started nested rounding env source u us hu
  rw [hrun]
  unfold Pass.run
  rw [Pass.runFrom_eq]
  refine agrees_bind ((Pass.after_moved nested rounding env source source' _ hsame).and_ensures
    hsecond) ?_ mid
  rintro q _ ⟨rfl, ⟨hbegun, hstarted⟩, hopen⟩
  rw [Pass.stop_marked rounding hbegun hstarted hopen.ne_another leftover leftover']
  exact agrees_locate (agrees_refl _) _ _ _ _

end

/-- A text and a program whose tokens are a condition and two branches come to the
    branch that the condition chooses, as if it stood alone. If the condition holds
    and the first branch alone leaves one value, that is the value, and nothing of
    the second branch is evaluated. If it does not hold, nothing of the first branch
    is evaluated, and the second one decides the value or why there is none. -/
theorem whole_eq_branch (config : Config) (env : Env) (vs mid : Variables) :
    (∀ (text : String) (t : Ternary String) (leftover : Bool),
      Token.read text = ⟨t.tokens, .finished leftover⟩ →
      ((t.condition.value (Interpret.evaluator config env) env text).outcome vs =
          (.ok (.bool true), mid) →
        ∀ (first : String) (ts : List (Token String)) (leftover' : Bool) (q : Pass) (v : Value)
          (vs' : Variables), Token.read first = ⟨ts, .finished leftover'⟩ →
          List.Forall₂ Token.Same t.first ts →
          Pass.Final (Interpret.evaluator config env) config.rounding env first
            (Token.read first) mid q vs' → q.frame.stack = [.value v] →
            (Interpret.whole config env first).outcome mid = (.ok (config.coerceWhole v), vs') ∧
              (Interpret.whole config env text).outcome vs =
                (.ok (config.coerceWhole v), vs')) ∧
      ((t.condition.value (Interpret.evaluator config env) env text).outcome vs =
          (.ok (.bool false), mid) →
        ∀ (second : String) (ts : List (Token String)) (leftover' : Bool),
          Token.read second = ⟨ts, .finished leftover'⟩ → List.Forall₂ Token.Same t.second ts →
            Matches Eq ((Interpret.whole config env text).outcome vs)
              ((Interpret.whole config env second).outcome mid))) ∧
    ∀ (p : Program) (t : Ternary Program), p.nodes = t.tokens →
      ((t.condition.value (Program.evaluator config env) env p.source).outcome vs =
          (.ok (.bool true), mid) →
        ∀ (first : Program) (q : Pass) (v : Value) (vs' : Variables),
          List.Forall₂ Token.Same t.first first.nodes →
          Pass.Final (Program.evaluator config env) config.rounding env first.source
            first.toReading mid q vs' → q.frame.stack = [.value v] →
            (first.run config env).outcome mid = (.ok (config.coerceWhole v), vs') ∧
              (p.run config env).outcome vs = (.ok (config.coerceWhole v), vs')) ∧
      ((t.condition.value (Program.evaluator config env) env p.source).outcome vs =
          (.ok (.bool false), mid) →
        ∀ second : Program, List.Forall₂ Token.Same t.second second.nodes →
          Matches Eq ((p.run config env).outcome vs) ((second.run config env).outcome mid)) := by
  refine ⟨fun text t leftover hread => ⟨fun hc first ts leftover' q v vs' hfirst hsame hfinal hst =>
    ?_, fun hc second ts leftover' hsecond hsame => ?_⟩, fun p t hnodes =>
    ⟨fun hc first q v vs' hsame hfinal hst => ?_, fun hc second hsame => ?_⟩⟩
  · rw [hfirst] at hfinal
    -- One lemma for each truth of the condition, used for texts and for programs.
    rcases run_of_true hc hsame hfinal hst leftover with ⟨halone, hrun⟩
    rw [Interpret.whole_eq, Interpret.whole_eq, outcome_map, outcome_map, hfirst, hread, halone,
      hrun]
    exact ⟨rfl, rfl⟩
  · rw [Interpret.whole_eq, Interpret.whole_eq, outcome_map, outcome_map, hread, hsecond]
    exact (run_of_false hc hsame leftover leftover').map config.coerceWhole
  · rcases run_of_true hc hsame hfinal hst false with ⟨halone, hrun⟩
    rw [Program.run_eq, Program.run_eq, outcome_map, outcome_map, Program.toReading,
      Program.toReading, hnodes, halone, hrun]
    exact ⟨rfl, rfl⟩
  · rw [Program.run_eq, Program.run_eq, outcome_map, outcome_map, Program.toReading,
      Program.toReading, hnodes]
    exact (run_of_false hc hsame false false).map config.coerceWhole

/-- The ternary `true ? x = false ? 1 : 2 : y`. -/
def assigning : Ternary String where
  condition := ⟨.literal (.bool true), ⟨0, 4⟩, false⟩
  question := ⟨5, 6⟩
  first :=
    [⟨.assign "x", ⟨7, 10⟩, false⟩, ⟨.operand (.literal (.bool false)), ⟨11, 16⟩, false⟩,
      ⟨.operator .ternary, ⟨17, 18⟩, false⟩, ⟨.operand (.literal (.int 1)), ⟨19, 20⟩, false⟩,
      ⟨.operator .ternaryElse, ⟨21, 22⟩, false⟩, ⟨.operand (.literal (.int 2)), ⟨23, 24⟩, false⟩]
  colon := ⟨25, 26⟩
  second := [⟨.operand (.identifier "y"), ⟨27, 28⟩, false⟩]
  first_unended := by decide
  first_balanced := by decide
  second_unended := by decide
  second_ne_nil := by decide

/-- The ternary `false ? y : 1 + 2`. -/
def adding : Ternary String where
  condition := ⟨.literal (.bool false), ⟨0, 5⟩, false⟩
  question := ⟨6, 7⟩
  first := [⟨.operand (.identifier "y"), ⟨8, 9⟩, false⟩]
  colon := ⟨10, 11⟩
  second :=
    [⟨.operand (.literal (.int 1)), ⟨12, 13⟩, false⟩, ⟨.operator .add, ⟨14, 15⟩, false⟩,
      ⟨.operand (.literal (.int 2)), ⟨16, 17⟩, false⟩]
  first_unended := by decide
  first_balanced := by decide
  second_unended := by decide
  second_ne_nil := by decide

/-- In `true ? x = false ? 1 : 2 : y` and in `false ? y : 1 + 2`, `y` is not looked
    up. -/
theorem whole_eq_branch_unresolved :
    (Interpret.whole {} ⟨.null, .null⟩ "true ? x = false ? 1 : 2 : y").outcome
      (.ofGlobals .empty) =
        (.ok (.int 2), ⟨[], ⟨[("x", .int 2)]⟩, [.write "x" (.int 2)]⟩) ∧
    Matches Eq
      ((Interpret.whole {} ⟨.null, .null⟩ "false ? y : 1 + 2").outcome (.ofGlobals .empty))
      ((Interpret.whole {} ⟨.null, .null⟩ "1 + 2").outcome (.ofGlobals .empty)) := by
  have hbranch := (whole_eq_branch {} ⟨.null, .null⟩ (.ofGlobals .empty) (.ofGlobals .empty)).1
  constructor
  · have hread : Token.read "true ? x = false ? 1 : 2 : y" =
        ⟨assigning.tokens, .finished false⟩ := by
      rw [Token.read_eq 29 (by decide)]
      rfl
    have hfirst : Token.read "x = false ? 1 : 2" =
        ⟨[⟨.assign "x", ⟨0, 3⟩, false⟩, ⟨.operand (.literal (.bool false)), ⟨4, 9⟩, false⟩,
          ⟨.operator .ternary, ⟨10, 11⟩, false⟩, ⟨.operand (.literal (.int 1)), ⟨12, 13⟩, false⟩,
          ⟨.operator .ternaryElse, ⟨14, 15⟩, false⟩,
          ⟨.operand (.literal (.int 2)), ⟨16, 17⟩, false⟩], .finished false⟩ := by
      rw [Token.read_eq 18 (by decide)]
      rfl
    have hfinal : Pass.Final (Interpret.evaluator {} ⟨.null, .null⟩) .halfDown ⟨.null, .null⟩
        "x = false ? 1 : 2" (Token.read "x = false ? 1 : 2") (.ofGlobals .empty)
        { frame := { stack := [.value (.int 2)], seen := true } }
        ((Variables.ofGlobals .empty).assign "x" (.int 2)) := by
      rw [hfirst]
      exact ⟨false, _, _, rfl, rfl, .handed rfl rfl rfl rfl (.here _ _), rfl, rfl⟩
    -- The tokens stand elsewhere, and are the same.
    refine ((hbranch _ assigning _ hread).1 rfl _ _ _ _ (.int 2) _ hfirst ?_ hfinal rfl).2
    exact .cons ⟨rfl, rfl⟩ (.cons ⟨rfl, rfl⟩ (.cons ⟨rfl, rfl⟩ (.cons ⟨rfl, rfl⟩
      (.cons ⟨rfl, rfl⟩ (.cons ⟨rfl, rfl⟩ .nil)))))
  · have hread : Token.read "false ? y : 1 + 2" = ⟨adding.tokens, .finished false⟩ := by
      rw [Token.read_eq 18 (by decide)]
      rfl
    have hsecond : Token.read "1 + 2" =
        ⟨[⟨.operand (.literal (.int 1)), ⟨0, 1⟩, false⟩, ⟨.operator .add, ⟨2, 3⟩, false⟩,
          ⟨.operand (.literal (.int 2)), ⟨4, 5⟩, false⟩], .finished false⟩ := by
      rw [Token.read_eq 6 (by decide)]
      rfl
    refine (hbranch _ adding _ hread).2 rfl _ _ _ hsecond ?_
    exact .cons ⟨rfl, rfl⟩ (.cons ⟨rfl, rfl⟩ (.cons ⟨rfl, rfl⟩ .nil))

end Ternary

end Reckon
