import Reckon.Proofs.Compile
import Reckon.Proofs.Statement

/-!
# Running a Program and Interpreting its Text

A program and its text lead to the same pass over the same tokens. They part in
one place only: at the end of the tokens, after the end of a statement. There a
program has no token left and its value is that of the statement. A text asks
instead whether anything but blanks is left of it, and exclamation marks in
pairs are, although no token follows them. They take the place of another
statement, and the value is dropped (`Interpret.Overrun`).

Everything else agrees, at every depth: the value or the error, where the error
is placed, and the variables with every use that was made of them. The proof
goes along the program. Of a pass over its tokens only the expressions that are
really evaluated matter (`Pass.after_congr`), and these are programs compiled
from the texts that interpreting evaluates in their places.

## Main definitions

* `Interpret.Enters`: Which texts inside a text are evaluated.
* `Interpret.Overrun`: A text whose last statement is dropped at its end.
* `Interpret.Overruns`: A text in which that happens somewhere.

## Theorems

* `Program.runNested_eq_nested`: Expressions inside others agree.
* `Program.run_eq_whole`: Whole expressions agree, and where they do not.
-/

namespace Reckon

open Eval

namespace Interpret

variable (config : Config) (env : Env)

/-- Interpreting `text` from `vs` comes to evaluate the expression `s` inside
    one of its tokens, from `vs'`. -/
def Enters (text : String) (vs : Variables) (s : String) (vs' : Variables) : Prop :=
  Pass.Evaluates (evaluator config env) config.rounding env text Pass.start
    (Token.read text).tokens vs s vs'

/-- The tokens of a text end between two statements, of which the first came to
    `v`, and something other than blanks is left of the text. -/
def Overrun (text : String) (vs vs' : Variables) (v : Value) : Prop :=
  (Token.read text).ending = .finished true ∧
    ∃ p, (pass config env text).outcome vs = (.ok p, vs') ∧ p.expecting = .another ∧
      p.frame.result = .ok v

/-- Interpreting a text comes to a text that is overrun. -/
inductive Overruns : String → Variables → Prop
  | atEnd {text : String} {vs vs' : Variables} {v : Value} :
      Overrun config env text vs vs' v → Overruns text vs
  | inside {text s : String} {vs vs' : Variables} :
      Enters config env text vs s vs' → Overruns s vs' → Overruns text vs

end Interpret

namespace Pass

/-- What is left over at the end of the tokens matters to a pass between two
    statements only. -/
theorem stop_of_ne_another {p : Pass} (h : p.expecting ≠ .another) (rounding : Rounding)
    (leftover leftover' : Bool) :
    p.stop rounding (.finished leftover) = p.stop rounding (.finished leftover') := by
  simp only [stop, atEnd_of_ne_another h]

end Pass

namespace Program

variable {config : Config} {env : Env}

/-- The end of the last token of a program is that of the last token of its
    text. -/
theorem CompiledFrom.lastStop_eq {text : String} {p : Program} (h : CompiledFrom text p)
    (cursor : Nat) :
    Pass.lastStop cursor (Token.read text).tokens = Pass.lastStop cursor p.nodes := by
  rw [← h.nodes_eq, Pass.lastStop_map]

/-- The pass over the tokens of a program is that over the tokens of its text, if
    the expressions that are evaluated agree. -/
theorem CompiledFrom.after_eq {text : String} {p : Program} (h : CompiledFrom text p)
    (vs : Variables)
    (hnested : ∀ q vs', compile q.source = .ok q → sizeOf q < sizeOf p →
      Interpret.Enters config env text vs q.source vs' →
      (Interpret.nested config env q.source).outcome vs' =
        (runNested config env q).outcome vs') :
    (Pass.after (evaluator config env) config.rounding env p.source Pass.start p.nodes).outcome
      vs = (Interpret.pass config env text).outcome vs := by
  unfold Interpret.pass
  unfold Interpret.Enters at hnested
  -- The tokens of the text are those of the program, with texts for programs.
  rw [h.source_eq, ← h.nodes_eq, Pass.after_map]
  refine (Pass.after_congr ((Interpret.evaluator config env).comap source) (evaluator config env)
    config.rounding env text Pass.start p.nodes vs rfl fun q vs' hq => ?_).symm
  rcases hq.mem with ⟨t, ht, hqt⟩
  refine hnested q vs' (h.nested t ht q hqt) (sizeOf_lt_of_mem_nodes ht q hqt) ?_
  rw [← h.nodes_eq]
  exact hq.of_comap

/-- A program comes to what its text comes to, unless the text is overrun. -/
theorem CompiledFrom.run_eq {text : String} {p : Program} (h : CompiledFrom text p)
    (vs : Variables)
    (hnested : ∀ q vs', compile q.source = .ok q → sizeOf q < sizeOf p →
      Interpret.Enters config env text vs q.source vs' →
      (Interpret.nested config env q.source).outcome vs' =
        (runNested config env q).outcome vs')
    (hend : ∀ vs' v, ¬ Interpret.Overrun config env text vs vs' v) :
    (Pass.run (evaluator config env) config.rounding env p.source p.toReading).outcome vs =
      (Pass.run (Interpret.evaluator config env) config.rounding env text
        (Token.read text)).outcome vs := by
  have hafter := h.after_eq vs hnested
  rcases h.finished with ⟨leftover, hleftover⟩
  unfold Pass.run
  rw [Pass.runFrom_eq, Pass.runFrom_eq, h.lastStop_eq, hleftover, ← h.source_eq]
  rw [h.source_eq] at hafter ⊢
  refine outcome_bind_congr _ _ _ _ vs hafter fun q mid hq => ?_
  refine outcome_mapError_congr _ _ _ mid ?_
  -- A program always ends with nothing left over.
  cases leftover with
  | false => rfl
  | true =>
      by_cases hexp : q.expecting = .another
      · -- Between two statements the text would be overrun.
        have hbegun := (Pass.after_begun _ _ _ _ _ _ Pass.begun_start).of_ok hq
        rcases hbegun.stop_of_another hexp config.rounding with ⟨v, hv, _⟩
        exact absurd ⟨hleftover, q, hafter ▸ hq, hexp, hv⟩ (hend mid v)
      · rw [toReading, Pass.stop_of_ne_another hexp config.rounding false true]

/-- The value of a program inside another is that of its text, unless
    interpreting the text comes to one that is overrun. -/
theorem runNested_eq_nested (p : Program) (text : String) (h : compile text = .ok p)
    (vs : Variables) (hover : ¬ Interpret.Overruns config env text vs) :
    (runNested config env p).outcome vs = (Interpret.nested config env text).outcome vs := by
  have hp := compiledFrom_compile h
  -- The recursion is on the size of the program, and follows what is evaluated.
  have hnested (q : Program) (vs' : Variables) (hq : compile q.source = .ok q)
      (hlt : sizeOf q < sizeOf p) (henters : Interpret.Enters config env text vs q.source vs') :
      (Interpret.nested config env q.source).outcome vs' = (runNested config env q).outcome vs' :=
    (runNested_eq_nested q q.source hq vs' fun hq' => hover (.inside henters hq')).symm
  have hrun := hp.run_eq vs hnested fun vs' v hv => hover (.atEnd hv)
  rw [runNested_eq, Interpret.nested_eq, hp.not_allBlank, if_neg Bool.false_ne_true,
    outcome_map, outcome_map, hrun]
termination_by sizeOf p

/-- Running the program of a text comes to what interpreting the text comes to,
    value or error and all uses of the variables, unless interpreting comes to a
    text that is overrun. If the text itself is overrun and none inside it is,
    its last statement is dropped by the interpreter and kept by the program. -/
theorem run_eq_whole (text : String) (p : Program) (h : compile text = .ok p) (config : Config)
    (env : Env) (vs : Variables) :
    (¬ Interpret.Overruns config env text vs →
      (p.run config env).outcome vs = (Interpret.whole config env text).outcome vs) ∧
    ∀ vs' v, (∀ s mid, Interpret.Enters config env text vs s mid →
        ¬ Interpret.Overruns config env s mid) →
      Interpret.Overrun config env text vs vs' v →
        (p.run config env).outcome vs = (.ok (config.coerceWhole v), vs') ∧
        (Interpret.whole config env text).outcome vs = (.ok (config.coerceWhole .null), vs') := by
  have hp := compiledFrom_compile h
  constructor
  · -- Nothing is overrun.
    intro hover
    have hrun := hp.run_eq vs
      (fun q vs' hq _ henters => (runNested_eq_nested q q.source hq vs' fun hq' =>
        hover (.inside henters hq')).symm)
      (fun vs' v hv => hover (.atEnd hv))
    rw [run_eq, Interpret.whole_eq, outcome_map, outcome_map, hrun]
  · -- The text is overrun: both passes end between the same two statements.
    rintro vs' v hinside ⟨hend, q, hq, hexp, hv⟩
    -- Up to the end of the text the two passes go alike; only their stops differ.
    have hafter := hp.after_eq vs fun q' mid hq' _ henters =>
      (runNested_eq_nested q' q'.source hq' mid (hinside _ _ henters)).symm
    have hbegun := (Pass.after_begun _ _ _ _ _ _ Pass.begun_start).of_ok hq
    rcases hbegun.stop_of_another hexp config.rounding with ⟨w, hw, hprogram, htext⟩
    rw [hv] at hw
    cases hw
    have hrun : (Pass.run (evaluator config env) config.rounding env p.source
        p.toReading).outcome vs = (.ok v, vs') := by
      rw [Pass.outcome_run_eq_ok]
      refine ⟨q, vs', hafter.trans hq, ?_⟩
      rw [toReading, hprogram, outcome_pure]
    have hwhole : (Pass.run (Interpret.evaluator config env) config.rounding env text
        (Token.read text)).outcome vs = (.ok .null, vs') := by
      rw [Pass.outcome_run_eq_ok]
      refine ⟨q, vs', hq, ?_⟩
      rw [hend, htext, outcome_pure]
    rw [run_eq, Interpret.whole_eq, outcome_map, outcome_map, hrun, hwhole]
    exact ⟨rfl, rfl⟩

/-- A text without expressions inside its tokens evaluates none. -/
theorem not_enters_of_flat {config : Config} {env : Env} {text s : String} {vs vs' : Variables}
    (h : ∀ t ∈ (Token.read text).tokens, t.nested = []) :
    ¬ Interpret.Enters config env text vs s vs' := by
  intro henters
  rcases henters.mem with ⟨t, ht, hs⟩
  rw [h t ht] at hs
  exact List.not_mem_nil hs

/-- Both cases happen. Interpreted, `5; !!` comes to null, and its program to 5;
    for `5` both come to the same. -/
theorem run_eq_whole_five :
    (∃ p, compile "5; !!" = .ok p ∧
      (p.run {} ⟨.null, .null⟩).outcome (.ofGlobals .empty) =
        (.ok (.int 5), .ofGlobals .empty) ∧
      (Interpret.whole {} ⟨.null, .null⟩ "5; !!").outcome (.ofGlobals .empty) =
        (.ok .null, .ofGlobals .empty)) ∧
    ∃ p, compile "5" = .ok p ∧
      (p.run {} ⟨.null, .null⟩).outcome (.ofGlobals .empty) =
        (Interpret.whole {} ⟨.null, .null⟩ "5").outcome (.ofGlobals .empty) := by
  constructor
  · have hread : Token.read "5; !!" =
        ⟨[⟨.operand (.literal (.int 5)), ⟨0, 1⟩, false⟩,
          ⟨.operator .endOfStatement, ⟨1, 2⟩, false⟩], .finished true⟩ := by
      rw [Token.read_eq 7 (by decide)]
      rfl
    have hcompile : compile "5; !!" = .ok ⟨"5; !!",
        [⟨.operand (.literal (.int 5)), ⟨0, 1⟩, false⟩,
          ⟨.operator .endOfStatement, ⟨1, 2⟩, false⟩]⟩ := by
      rw [compile_eq, hread]
      rfl
    have hover : Interpret.Overrun {} ⟨.null, .null⟩ "5; !!" (.ofGlobals .empty)
        (.ofGlobals .empty) (.int 5) := by
      refine ⟨by rw [hread], ⟨⟨[.value (.int 5)], false, true, 0⟩, .another, [], 0⟩, ?_, rfl, rfl⟩
      rw [Interpret.pass, hread]
      rfl
    refine ⟨_, hcompile, (run_eq_whole _ _ hcompile {} ⟨.null, .null⟩ _).2 _ _ ?_ hover⟩
    intro s mid henters
    refine absurd henters (not_enters_of_flat ?_)
    rw [hread]
    decide
  · have hread : Token.read "5" =
        ⟨[⟨.operand (.literal (.int 5)), ⟨0, 1⟩, false⟩], .finished false⟩ := by
      rw [Token.read_eq 2 (by decide)]
      rfl
    have hcompile : compile "5" = .ok ⟨"5",
        [⟨.operand (.literal (.int 5)), ⟨0, 1⟩, false⟩]⟩ := by
      rw [compile_eq, hread]
      rfl
    refine ⟨_, hcompile, (run_eq_whole _ _ hcompile {} ⟨.null, .null⟩ _).1 ?_⟩
    rintro (⟨hend, _⟩ | ⟨henters, _⟩)
    · rw [hread] at hend
      cases hend
    · refine absurd henters (not_enters_of_flat ?_)
      rw [hread]
      decide

end Program

end Reckon
