import Reckon.Proofs.Inside
import Reckon.Proofs.Sequence
import Reckon.Proofs.Target

/-!
# Chains of Assignments

In `a = b = e` each target opens a frame around the next, and the innermost frame
reads the expression. It reads it as it would alone (`Interpret.pass_chain`), and
where that comes to one value the end of the statement takes this value outward,
through frames in which nothing else is read: each assignment stores it and hands it
on (`Pass.ends_opened`). So the expression is evaluated once, then the targets are
assigned from the last one to the first, and the chain comes to the value that was
stored. Where the expression comes to no value, the innermost assignment has none to
store, and those around it are never reached.

## Main definitions

* `storeAll`: Storing a value for all targets of a chain.
* `Pass.opened`: The assignments of targets that have been read.
* `Pass.between`: A pass between two statements, the first of which had a value.

## Theorems

* `Pass.after_targets`: Targets open frames.
* `Interpret.pass_chain`: The expression of a chain is read as it is alone.
* `Pass.ends_opened`: A value is stored for each target, and goes further out.
* `Interpret.whole_chain`: What a chain of assignments comes to, alone and before
  another statement.
-/

namespace Reckon

open Eval

/-- The variables after a value was stored for all targets of a chain, the last one
    first. -/
def storeAll (targets : List Target) (v : Value) (vs : Variables) : Variables :=
  targets.foldr (fun target vs => vs.assign target.name v) vs

namespace Pass

/-- The assignments of targets that have been read, the last one first. -/
def opened (targets : List Target) : List Assignment :=
  targets.map fun target => ⟨target.name, .first, {}⟩

theorem opened_append (targets targets' : List Target) :
    opened (targets ++ targets') = opened targets ++ opened targets' :=
  List.map_append

/-- A frame that has come to a value, with assignments around it. -/
def filled (v : Value) (regroupings : Nat) (outer : List Assignment) : Pass :=
  ⟨{ stack := [.value v], seen := true }, .statement, outer, regroupings⟩

/-- A pass between two statements, the first of which came to a value. -/
def between (v : Value) (regroupings : Nat) : Pass :=
  ⟨{ stack := [.value v], seen := true }, .another, [], regroupings⟩

section

variable {α : Type} (nested : Nested α) (rounding : Rounding) (env : Env) (source : String)

/-- At the start of a statement, each target opens a frame inside those of the targets
    before it. -/
theorem after_targets {targets : List Target} {ts : List (Token α)}
    (hts : List.Forall₂ (fun target t => t.kind = .assign target.name) targets ts)
    (outer : List Assignment) :
    after nested rounding env source (start.inside outer) ts =
      pure (start.inside (opened targets.reverse ++ outer)) := by
  induction hts generalizing outer with
  | nil => rfl
  | @cons target t targets ts ht _ ih =>
      have hstep : (start.inside outer).step nested rounding env source t =
          pure (start.inside (opened [target] ++ outer)) := by
        unfold step
        rw [ht]
        rfl
      rw [after_cons, hstep, pure_bind, ih, List.reverse_cons, opened_append, List.append_assoc]

end

/-- A value in a frame inside assignments that have nothing else to read is stored for
    each of them in turn. -/
theorem ends_filled (rounding : Rounding) (v : Value) (n : Nat) (targets : List Target)
    (vs : Variables) :
    (filled v n (opened targets)).Ends rounding vs (filled v n [])
      (targets.foldl (fun vs target => vs.assign target.name v) vs) := by
  -- Each assignment leaves a frame that is filled in turn, inside one assignment less.
  induction targets generalizing vs with
  | nil => exact .here _ _
  | cons target targets ih => exact .handed rfl rfl rfl rfl (ih _)

/-- The same for any frame that has come to a value, if there is an assignment around
    it. -/
theorem ends_opened {rounding : Rounding} {p : Pass} {v : Value} {targets : List Target}
    (hne : targets ≠ []) (houter : p.outer = opened targets) (hst : p.frame.stack = [.value v])
    (hmissing : missing? p.expecting = none) (vs : Variables) :
    p.Ends rounding vs (filled v p.regroupings [])
      (targets.foldl (fun vs target => vs.assign target.name v) vs) := by
  cases targets with
  | nil => exact absurd rfl hne
  | cons target targets =>
      have hassigned : p.frame.assigned target.name = .ok v := by
        unfold Frame.assigned
        rw [hst]
      exact .handed houter hmissing hassigned rfl (ends_filled rounding v p.regroupings targets _)

theorem Ends.trans {rounding : Rounding} {p q r : Pass} {vs vs₁ vs₂ : Variables}
    (h : p.Ends rounding vs q vs₁) (h' : q.Ends rounding vs₁ r vs₂) : p.Ends rounding vs r vs₂ := by
  induction h with
  | here => exact h'
  | handed houter hmissing hassigned hplace _ ih =>
      exact .handed houter hmissing hassigned hplace (ih h')

end Pass

namespace Interpret

variable (config : Config) (env : Env)

/-- The expression at the end of a chain is read inside the assignments as it is
    alone. -/
theorem pass_chain (targets : List Target) {text : String}
    (hunended : Unended (Token.read text).tokens)
    (hnarrow : Token.Narrow (chainText targets text)) :
    (pass config env (chainText targets text)).Agrees Eq
      (Pass.inside (Pass.opened targets.reverse) <$> pass config env text) := by
  rcases Token.read_chain targets text hnarrow with ⟨ts, us, ending, hread, hts, hus⟩
  clear hnarrow
  unfold pass
  generalize chainText targets text = chain at hread ⊢
  rw [hread, Pass.after_append]
  -- The targets come first, and the expression is read inside the frames they open.
  have hstart : (Pass.start.inside [] : Pass) = Pass.start := rfl
  rw [← hstart, Pass.after_targets _ _ _ _ hts, pure_bind, List.append_nil, hstart,
    ← Pass.after_inside _ _ _ _ text _ _ Pass.open_start hunended]
  exact (Pass.after_moved _ _ _ _ _ _ hus.tokens_same).symm

theorem ending_chain (targets : List Target) (text : String)
    (hnarrow : Token.Narrow (chainText targets text)) (leftover : Bool) :
    (Token.read (chainText targets text)).ending = .finished leftover ↔
      (Token.read text).ending = .finished leftover := by
  rcases Token.read_chain targets text hnarrow with ⟨ts, us, ending, hread, _, hus⟩
  rw [hread]
  exact hus.finished_iff leftover

section Value

variable {config env} {targets : List Target} {text : String} {q : Pass} {v : Value}
  {vs mid : Variables} (hne : targets ≠ []) (hunended : Unended (Token.read text).tokens)
  (hfinal : Pass.Final (evaluator config env) config.rounding env text (Token.read text) vs q mid)
  (hst : q.frame.stack = [.value v]) (hnarrow : Token.Narrow (chainText targets text))

include hne hunended hfinal hst hnarrow

/-- Where the expression comes to one value, the end of the chain takes it outward
    through all assignments. -/
theorem ends_chain :
    ∃ leftover p mid', (Token.read (chainText targets text)).ending = .finished leftover ∧
      (pass config env (chainText targets text)).outcome vs = (.ok p, mid') ∧
      p.expecting ≠ .another ∧
      p.Ends config.rounding mid' (Pass.filled v q.regroupings [])
        (storeAll targets v mid) := by
  rcases hfinal with ⟨leftover, p, mid', hending, hafter, hends, houter, hmissing⟩
  have hp : (pass config env text).outcome vs = (.ok p, mid') := hafter
  have hopen := pass_open config env hunended hp
  rw [Pass.atEnd_of_ne_another hopen.ne_another] at hends
  -- The chain ends as the expression does, inside the assignments, and then they end.
  have hchain : (pass config env (chainText targets text)).outcome vs =
      (.ok (p.inside (Pass.opened targets.reverse)), mid') := by
    refine (pass_chain config env targets hunended hnarrow).symm.of_ok ?_
    rw [outcome_map, hp]
    rfl
  refine ⟨leftover, _, mid', (ending_chain targets text hnarrow leftover).mpr hending, hchain,
    hopen.ne_another, (hends.inside _).trans ?_⟩
  rw [storeAll, ← List.foldl_reverse]
  refine Pass.ends_opened (p := q.inside (Pass.opened targets.reverse))
    (mt List.reverse_eq_nil_iff.mp hne) ?_ hst hmissing mid
  rw [Pass.inside, houter, List.nil_append]

/-- An end of statement behind a chain leads to the same assignments, and to a pass
    between two statements. What follows is moved, and read from there. -/
theorem run_chain_rest {rest : String}
    (hrest : Token.Narrow (chainText targets text ++ " ; " ++ rest)) :
    ∃ us ending, (Token.read rest).Moved ⟨us, ending⟩ ∧
      Matches Eq
        ((Pass.run (evaluator config env) config.rounding env
          (chainText targets text ++ " ; " ++ rest)
          (Token.read (chainText targets text ++ " ; " ++ rest))).outcome vs)
        ((Pass.runFrom (evaluator config env) config.rounding env
          (chainText targets text ++ " ; " ++ rest) ending 0 (.between v q.regroupings) us).outcome
            (storeAll targets v mid)) := by
  rcases ends_chain hne hunended hfinal hst hnarrow with
    ⟨leftover, p, mid', hending, hp, hexp, hends⟩
  rw [sequence_eq] at hrest ⊢
  have hjoins : Operator.endOfStatement.joins = true := rfl
  rcases run_joining config env hjoins rest hending hrest with ⟨t, us, ending, ht, hus, hrun⟩
  clear hrest
  refine ⟨us, ending, hus, ?_⟩
  generalize chainText targets text ++ " " ++ Operator.endOfStatement.symbol ++ " " ++ rest = joined
    at hrun ⊢
  -- The semicolon closes all assignments of the chain, each with the one value.
  have hstep : (p.step (evaluator config env) config.rounding env joined t).outcome mid' =
      (.ok (.between v q.regroupings),
        storeAll targets v mid) := by
    unfold Pass.step
    rw [ht, outcome_locate_eq_ok]
    exact Pass.outcome_feed_end hexp hends rfl rfl rfl _ _
  have hvs := hrun vs
  rwa [outcome_bind_of_ok _ _ _ _ _ hp, outcome_bind_of_ok _ _ _ _ _ hstep] at hvs

theorem matches_chain_rest {rest : String} {leftover : Bool}
    (hrest : Token.Narrow (chainText targets text ++ " ; " ++ rest))
    (hending : (Token.read rest).ending = .finished leftover) :
    Matches Eq ((whole config env (chainText targets text ++ " ; " ++ rest)).outcome vs)
      ((config.coerceWhole <$> goOn config env (.between v q.regroupings) rest).outcome
        (storeAll targets v mid)) := by
  rcases run_chain_rest hne hunended hfinal hst hnarrow hrest with ⟨us, ending, hus, hrun⟩
  have hmoved := Pass.runFrom_moved (evaluator config env) config.rounding env rest
    (chainText targets text ++ " ; " ++ rest) 0 0 (.between v q.regroupings) hus hending
  rw [whole_eq, outcome_map, outcome_map]
  exact (hrun.trans (hmoved.symm _)).map config.coerceWhole

end Value

end Interpret

end Reckon
