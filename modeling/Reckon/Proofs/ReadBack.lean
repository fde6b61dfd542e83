import Reckon.Proofs.Assigning
import Reckon.Proofs.Scopes

/-!
# Reading Back What Was Assigned

An assignment stores its value under the whole text of its path. Read alone, the same
text is the variable of that name only if the path has no point in it and is not the
name of a type (`namesVariable`). A path with a point is looked up by its first name,
and the name of a type is a constant. So `x = 5 ; x` comes to what `5` does, but what
`a.b = 5` has stored is found by no path: `a.b` comes to what it comes to without the
assignment (`Interpret.whole_readBack`).

What is stored in some scope is found afterwards whatever the scopes are
(`Variables.lookup?_assign`), so nothing here depends on where the variables live.

## Main definitions

* `namesVariable`: Whether a path is the name of a variable where it is read.

## Theorems

* `Env.resolve_assign`, `Env.resolve_of_point`: A path after a value was stored under
  the whole of it.
* `Interpret.goOn_target`: The text of a target alone.
* `Interpret.whole_readBack`: An assignment, and then the text of its target.
-/

namespace Reckon

open Eval

namespace Text

variable {mark : Char} {cs : List Char}

/-- What stands before the first mark does not have the mark in it. -/
theorem cutAt_of_mem (h : mark ∈ cs) :
    ∃ before after, cutAt mark cs = (before, some after) ∧ mark ∉ before := by
  unfold cutAt
  cases hbody : cs.dropWhile (· != mark) with
  | nil =>
      have hne := List.dropWhile_eq_nil_iff.mp hbody mark h
      exact absurd rfl (bne_iff_ne.mp hne)
  | cons c after =>
      refine ⟨_, after, rfl, fun hmem => ?_⟩
      exact absurd rfl (bne_iff_ne.mp (List.mem_takeWhile_imp (p := (· != mark)) hmem))

end Text

/-- A variable that holds a value is found under its name. -/
theorem Env.resolve_assign (env : Env) {name : String} (h : '.' ∉ name.toList) (v : Value)
    (vs : Variables) :
    (env.resolve name).outcome (vs.assign name v) =
      (.ok v, (vs.assign name v).afterRead name) :=
  env.resolve_of_lookup h (by rw [Variables.lookup?_assign, if_pos rfl])

theorem Env.outcome_property (path : String) (target : Value) (vs vs' : Variables) :
    ((property path target).outcome vs).1 = ((property path target).outcome vs').1 := by
  unfold property
  cases Property.get path target <;> rfl

/-- A path with a point in it does not lead to the variable that has the whole path for
    its name. -/
theorem Env.resolve_of_point (env : Env) {name : String} (h : '.' ∈ name.toList) (v : Value)
    (vs : Variables) :
    ((env.resolve name).outcome (vs.assign name v)).1 = ((env.resolve name).outcome vs).1 := by
  rcases Text.cutAt_of_mem h with ⟨before, after, hcut, hbefore⟩
  have hne : String.ofList before ≠ name := by
    rintro rfl
    rw [String.toList_ofList] at h
    exact hbefore h
  have hlookup (vs : Variables) : (Eval.resolve (String.ofList before)).outcome vs =
      (.ok (vs.lookup? (String.ofList before)), vs.afterRead (String.ofList before)) := rfl
  unfold resolve
  rw [hcut]
  split
  next => exact outcome_property _ _ _ _
  next heq =>
    cases heq
    -- The path is looked up by its first name, which is another one.
    rw [outcome_bind, outcome_bind, hlookup, hlookup, Variables.lookup?_assign, if_neg hne]
    cases vs.lookup? (String.ofList before) with
    | some value => exact outcome_property _ _ _ _
    | none => cases Property.get name env.context <;> rfl

/-- Whether a path is the name of a variable where it is read: there is no point in it,
    and it is not the name of a type. -/
def namesVariable (path : String) : Bool :=
  !path.toList.contains '.' && (TypeName.ofName? path).isNone

namespace Operand

variable (nested : Nested String) (env : Env) (source : String) (inside : Nat)

theorem value_ofPath_of_namesVariable {path : String} (h : namesVariable path = true) :
    '.' ∉ path.toList ∧ (ofPath path).value nested env source inside = env.resolve path := by
  simp only [namesVariable, Bool.and_eq_true, Bool.not_eq_true', List.contains_eq_mem,
    decide_eq_false_iff_not, Option.isNone_iff_eq_none] at h
  refine ⟨h.1, ?_⟩
  unfold ofPath
  rw [h.2, ite_self]
  rfl

/-- Any other path does not depend on what is stored under the whole of it. -/
theorem value_ofPath_of_not_namesVariable {path : String} (h : namesVariable path = false)
    (v : Value) (vs : Variables) :
    (((ofPath path).value nested env source inside).outcome (vs.assign path v)).1 =
      (((ofPath path).value nested env source inside).outcome vs).1 := by
  unfold ofPath
  -- Such a path has a point, or it is the name of a type; neither looks up the variable.
  by_cases hpoint : '.' ∈ path.toList
  · have hcontains : path.toList.contains '.' = true := List.contains_iff_mem.mpr hpoint
    rw [hcontains]
    exact env.resolve_of_point hpoint v vs
  · have hcontains : path.toList.contains '.' = false := by
      rwa [Bool.eq_false_iff, ne_eq, List.contains_iff_mem]
    rw [namesVariable, hcontains, Bool.not_false, Bool.true_and] at h
    rw [hcontains]
    cases htype : TypeName.ofName? path with
    | some type => rfl
    | none =>
        rw [htype] at h
        cases h

end Operand

/-- Where a run over one statement ends with one value, this is its result. -/
theorem Pass.Final.result_of_stack {α : Type} {nested : Nested α} {rounding : Rounding} {env : Env}
    {source : String} {reading : Reading α} {q : Pass} {v : Value} {vs vs' : Variables}
    (h : Final nested rounding env source reading vs q vs') (hunended : Unended reading.tokens)
    (hst : q.frame.stack = [.value v]) : q.frame.result = .ok v := by
  rcases h with ⟨leftover, p, mid, _, hp, hends, _, _⟩
  have hopen := (after_open _ _ _ _ _ _ open_start hunended).of_ok hp
  have hbegun := (after_begun _ _ _ _ _ _ begun_start).of_ok hp
  rw [atEnd_of_ne_another hopen.ne_another] at hends
  have hseen : q.frame.seen = true :=
    (hends.begun hbegun).seen_of_stack (by rw [hst]; exact List.cons_ne_nil _ _)
  unfold Frame.result
  rw [hseen, hst]
  rfl

namespace Interpret

variable (config : Config) (env : Env)

/-- The text of a target alone is one operand. -/
theorem goOn_target (target : Target) :
    ∃ inside stop, goOn config env Pass.start target.text =
      ((Operand.ofPath target.name).value (evaluator config env) env target.text inside).locate
        target.text stop := by
  rcases target.read_text with ⟨span, hread⟩
  refine ⟨span.start + 1, span.stop, ?_⟩
  unfold goOn
  rw [hread, Pass.runFrom_operand rfl rfl rfl rfl _ _ _ _ rfl, Token.value_of_not_negated _ _ _ rfl]

/-- Between two statements it comes to what it comes to at the start. -/
theorem goOn_between_target (target : Target) (v : Value) (n : Nat) :
    goOn config env (.between v n) target.text = goOn config env Pass.start target.text := by
  rcases target.read_text with ⟨span, hread⟩
  unfold goOn
  rw [hread, Pass.runFrom_operand rfl rfl rfl rfl _ _ _ _ rfl,
    Pass.runFrom_operand rfl rfl rfl rfl _ _ _ _ rfl]

theorem outcome_target_of_namesVariable {target : Target}
    (h : namesVariable target.name = true) (v : Value) (vs : Variables) :
    (goOn config env Pass.start target.text).outcome (vs.assign target.name v) =
      (.ok v, (vs.assign target.name v).afterRead target.name) := by
  rcases goOn_target config env target with ⟨inside, stop, hgoOn⟩
  rcases Operand.value_ofPath_of_namesVariable (evaluator config env) env target.text inside h with
    ⟨hpoint, hvalue⟩
  rw [hgoOn, hvalue, outcome_locate_eq_ok]
  exact env.resolve_assign hpoint v vs

theorem outcome_target_of_not_namesVariable {target : Target}
    (h : namesVariable target.name = false) (v : Value) (vs : Variables) :
    ((goOn config env Pass.start target.text).outcome (vs.assign target.name v)).1 =
      ((goOn config env Pass.start target.text).outcome vs).1 := by
  rcases goOn_target config env target with ⟨inside, stop, hgoOn⟩
  rw [hgoOn, locate, outcome_mapError, outcome_mapError,
    Operand.value_ofPath_of_not_namesVariable _ _ _ _ h]

/-- An assignment of an expression that comes to one value, and then the text of its
    target alone. If its path names a variable, this comes to what the expression does,
    and the variable is read once more. Otherwise it comes to what the text of the target
    comes to without the assignment, to the same value or to an error of the same cause:
    what was stored is never looked at. Both are so for a text that is not longer than spans
    can count. -/
theorem whole_readBack (target : Target) {text : String}
    (hunended : Unended (Token.read text).tokens) {q : Pass} {v : Value} {vs mid : Variables}
    (hfinal : Pass.Final (evaluator config env) config.rounding env text (Token.read text) vs q mid)
    (hst : q.frame.stack = [.value v]) :
    (whole config env text).outcome vs = (.ok (config.coerceWhole v), mid) ∧
      ((target.text ++ " = " ++ text ++ " ; " ++ target.text).utf8ByteSize ≤ Span.limit →
        (namesVariable target.name = true →
          (whole config env (target.text ++ " = " ++ text ++ " ; " ++ target.text)).outcome vs =
            (.ok (config.coerceWhole v), (mid.assign target.name v).afterRead target.name)) ∧
        (namesVariable target.name = false →
          ((whole config env (target.text ++ " = " ++ text ++ " ; " ++ target.text)).outcome
              vs).1.mapError Error.cause =
            ((whole config env target.text).outcome mid).1.mapError Error.cause)) := by
  refine ⟨?_, fun hle => ?_⟩
  · refine (outcome_whole_eq_ok _ _ _ _ _ _).mpr ⟨v, ?_, rfl⟩
    exact (Pass.outcome_run_eq_ok_iff_final _ _ _ _ _ _ _ _).mpr
      ⟨q, hfinal, hfinal.result_of_stack hunended hst⟩
  rcases target.read_text with ⟨span, hread⟩
  -- The assignment is a chain of one, and the pass goes on with the text of the target.
  have hnarrow : Token.Narrow (chainText [target] text) := by
    refine Token.narrow_of_le (Nat.le_trans ?_ hle)
    rw [String.utf8ByteSize_append, String.utf8ByteSize_append, Nat.add_assoc]
    exact Nat.le_add_right _ _
  have hmatches := matches_chain_rest (List.cons_ne_nil target []) hunended hfinal hst hnarrow
    (Token.narrow_of_le hle) (congrArg Reading.ending hread)
  rw [goOn_between_target, outcome_map] at hmatches
  change Matches Eq
    ((whole config env (target.text ++ " = " ++ text ++ " ; " ++ target.text)).outcome vs)
    (((goOn config env Pass.start target.text).outcome (mid.assign target.name v)).1.map
        config.coerceWhole,
      ((goOn config env Pass.start target.text).outcome (mid.assign target.name v)).2) at hmatches
  refine ⟨fun h => ?_, fun h => ?_⟩
  · rw [outcome_target_of_namesVariable config env h] at hmatches
    generalize (whole config env (target.text ++ " = " ++ text ++ " ; " ++ target.text)).outcome
      vs = o at hmatches ⊢
    cases hmatches with
    | ok heq => rw [heq]
  · rw [whole_eq config env target.text, run_eq_goOn, outcome_map, hmatches.mapError_cause,
      outcome_target_of_not_namesVariable config env h]

/-- In `x = 5 ; x` the value is read back. In `a.b = 5 ; a.b` it is not: it is stored
    under the name `a.b`, and looked for in a variable `a`, which there is not. -/
theorem whole_readBack_point :
    (whole {} ⟨.null, .null⟩ "x = 5 ; x").outcome (.ofGlobals .empty) =
      (.ok (.int 5), ⟨[], ⟨[("x", .int 5)]⟩, [.read "x", .write "x" (.int 5)]⟩) ∧
    ((whole {} ⟨.null, .null⟩ "a.b = 5 ; a.b").outcome (.ofGlobals .empty)).1.mapError Error.cause =
      .error (.unresolved "a.b") := by
  have hread : Token.read "5" =
      ⟨[⟨.operand (.literal (.int 5)), ⟨0, 1⟩, false⟩], .finished false⟩ := by
    rw [Token.read_eq 2 (by decide)]
    rfl
  have hreadPoint : Token.read "a.b" =
      ⟨[⟨.operand (.identifier "a.b"), ⟨0, 3⟩, false⟩], .finished false⟩ := by
    rw [Token.read_eq 4 (by decide)]
    rfl
  have hx : Token.read "x =" = ⟨[⟨.assign "x", ⟨0, 3⟩, false⟩], .finished false⟩ := by
    rw [Token.read_eq 4 (by decide)]
    rfl
  have hpoint : Token.read "a.b =" = ⟨[⟨.assign "a.b", ⟨0, 5⟩, false⟩], .finished false⟩ := by
    rw [Token.read_eq 6 (by decide)]
    rfl
  have hfinal : Pass.Final (evaluator {} ⟨.null, .null⟩) ({} : Config).rounding ⟨.null, .null⟩
      "5" (Token.read "5") (.ofGlobals .empty)
      ⟨⟨[.value (.int 5)], false, true, 0⟩, .statement, [], 0⟩ (.ofGlobals .empty) := by
    rw [hread]
    refine ⟨false, ⟨⟨[.value (.int 5)], false, true, 0⟩, .statement, [], 0⟩, .ofGlobals .empty, rfl,
      ?_, .here _ _, rfl, rfl⟩
    with_unfolding_all rfl
  have hunended : Unended (Token.read "5").tokens := by
    rw [hread]
    decide
  have hfits : "x = 5 ; x".utf8ByteSize ≤ Span.limit := by decide
  have hfitsPoint : "a.b = 5 ; a.b".utf8ByteSize ≤ Span.limit := by decide
  refine ⟨((whole_readBack {} ⟨.null, .null⟩ ⟨"x", "x", _, hx⟩ hunended hfinal rfl).2
    hfits).1 (show namesVariable "x" = true by decide), ?_⟩
  refine (((whole_readBack {} ⟨.null, .null⟩ ⟨"a.b", "a.b", _, hpoint⟩ hunended hfinal rfl).2
    hfitsPoint).2 (show namesVariable "a.b" = false by decide)).trans ?_
  rw [whole_eq, hreadPoint]
  with_unfolding_all rfl

end Interpret

end Reckon
