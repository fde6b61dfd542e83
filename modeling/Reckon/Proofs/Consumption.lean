import Reckon.Proofs.Reducing
import Reckon.Proofs.Replay

/-!
# Reading to the End

A reducer pulls the tokens of a text one by one, each one because something is to be
done with it, and it may stop where it likes. If it ended early the rest of the text
would stay unread, and whatever is wrong there unnoticed. It does not: when it has
come to a value it has pulled every token, and stands where the reader of the text
has none left (`Interpret.outcome_run_eq_ok_iff_readsTo`). Tokens that are skipped are
pulled too, one after the other, so a fault among them is found as well.

What a text comes to is what its reducer comes to (`Interpret.whole_eq_eval`). This is
so for a text inside another as well (`Interpret.nested_eq_eval`), so the same holds
at every depth. A group or an element that is evaluated on the way to a value
has come to a value itself (`Interpret.exists_ok_of_enters`), and was read to its end
in turn. What is not evaluated is not read: a group that is skipped may hold anything.

Which texts are evaluated is told of a pass. It is the same of a reducer, as the two
come to the same whatever it is that evaluates the texts inside, and whatever this
does to the variables.

## Main definitions

* `Interpret.ReadsTo`: A text that a reducer has read to its end.
* `Interpret.Reaches`: The texts that are evaluated, at any depth.

## Theorems

* `Operand.exists_ok_of_visits`: An operand that comes to a value.
* `Interpret.whole_eq_eval`, `Interpret.nested_eq_eval`: A text comes to what a reducer
  comes to that pulls its tokens.
* `Program.run_eq_eval`: So does a program.
* `Interpret.exists_ok_of_enters`: A text that comes to a value.
* `Interpret.outcome_run_eq_ok_iff_readsTo`: Coming to a value is reading to the end.
* `Interpret.readsTo_of_whole`: All texts that are evaluated are read to their ends.
-/

namespace Reckon

open Eval

namespace Operand

variable {α : Type} {nested : Nested α}

/-- If the values of all elements are found, every element has one. -/
theorem exists_ok_of_elementValues {source : String} {start : Nat} {elements : List α}
    {values : List Value} {vs vs' mid : Variables} {a : α}
    (h : (elementValues nested source start elements).outcome vs = (.ok values, vs'))
    (ha : nested.Visits elements vs a mid) :
    ∃ v mid', (nested.eval a).outcome mid = (.ok v, mid') := by
  induction ha generalizing start values vs' with
  | head =>
      rw [elementValues] at h
      rcases (outcome_bind_eq_ok _ _ _ _ _).mp h with ⟨v, mid', hv, _⟩
      exact ⟨v, mid', (outcome_mapError_eq_ok _ _ _ _ _).mp hv⟩
  | tail hfirst _ ih =>
      rw [elementValues] at h
      rcases (outcome_bind_eq_ok _ _ _ _ _).mp h with ⟨v, mid', hv, hrest⟩
      rcases (outcome_bind_eq_ok _ _ _ _ _).mp hrest with ⟨values', mid'', hvalues, _⟩
      -- The variables that the first element leaves are those the rest starts from.
      rw [lift, outcome_mapError_eq_ok, hfirst] at hv
      cases hv
      exact ih hvalues

/-- If an operand comes to a value, so does every expression inside it. -/
theorem exists_ok_of_visits {env : Env} {source : String} {inside : Nat} {o : Operand α}
    {v : Value} {vs vs' mid : Variables} {a : α}
    (h : (o.value nested env source inside).outcome vs = (.ok v, vs'))
    (ha : nested.Visits o.nested vs a mid) :
    ∃ w mid', (nested.eval a).outcome mid = (.ok w, mid') := by
  cases o with
  | group inner =>
      cases ha with
      | head => exact ⟨v, vs', (outcome_mapError_eq_ok _ _ _ _ _).mp h⟩
      | tail _ hnil => cases hnil
  | list elements =>
      rcases (outcome_bind_eq_ok _ _ _ _ _).mp h with ⟨values, mid', hvalues, _⟩
      exact exists_ok_of_elementValues hvalues ha
  | literal | identifier | self => cases ha

end Operand

namespace Pass

variable {α : Type} {nested : Nested α}

/-- If a pass gets past an operand that it takes, the expressions inside the
    operand have come to values. -/
theorem exists_ok_of_evaluates {rounding : Rounding} {env : Env} {source : String} {p q : Pass}
    {tokens : List (Token α)} {vs vs' mid : Variables} {a : α}
    (h : (after nested rounding env source p tokens).outcome vs = (.ok q, vs'))
    (ha : Evaluates nested rounding env source p tokens vs a mid) :
    ∃ v mid', (nested.eval a).outcome mid = (.ok v, mid') := by
  rcases ha with ⟨ts, t, us, r, o, mid₀, rfl, hts, hslot, ho, hvisits⟩
  rcases Option.isSome_iff_exists.mp hslot with ⟨slot, hslot⟩
  rw [after_append, outcome_bind_of_ok _ _ _ _ _ hts, after_cons] at h
  rcases (outcome_bind_eq_ok _ _ _ _ _).mp h with ⟨r', mid₁, hstep, _⟩
  -- The pass has taken the operand, so its value was found.
  rw [step, outcome_locate_eq_ok, ho, feed_operand rounding r slot o _ _ hslot, operand] at hstep
  rcases (outcome_bind_eq_ok _ _ _ _ _).mp hstep with ⟨v, mid₂, hvalue, _⟩
  rcases (outcome_bind_eq_ok _ _ _ _ _).mp hvalue with ⟨w, mid₃, hoperand, _⟩
  exact Operand.exists_ok_of_visits hoperand hvisits

end Pass

namespace Interpret

variable (config : Config) (env : Env)

/-- A reducer that pulls the tokens of `text` one by one comes from `vs` to the value `v`
    and leaves `vs'`. By then it has pulled all tokens of the text, which can be read as a
    whole, and stands where no token is left. -/
def ReadsTo (text : String) (vs : Variables) (v : Value) (vs' : Variables) : Prop :=
  ∃ tokens r,
    (Reducer.run (.ofText text) (evaluator config env) config.rounding env).outcome
      (.start text.toList) vs = ((.ok v, r), vs') ∧
    Token.readAll? text = .ok tokens ∧
    (Source.ofText text).Pulls (.start text.toList) tokens r ∧ r.next? = .ok none

/-- Interpreting `text` from `vs` comes to evaluate the text `s` from `vs'`: the
    text itself, a text inside one of its tokens, or one further inside. -/
inductive Reaches (text : String) (vs : Variables) : String → Variables → Prop
  | itself : Reaches text vs text vs
  | inside {s s' : String} {mid vs' : Variables} :
      Reaches text vs s mid → Enters config env s mid s' vs' → Reaches text vs s' vs'

variable {config env}

/-- The tokens that the reader of a text has to hand out are fewer than a reducer allows
    for. -/
theorem length_tokens_lt_bound (text : String) :
    (Token.read text).tokens.length < (Source.ofText text).bound (.start text.toList) :=
  Nat.lt_succ_of_le (Reader.length_tokens_le (.start text.toList))

/-- A pass over the tokens of a text comes to what a reducer does that pulls them. -/
theorem run_eq_eval (text : String) :
    Pass.run (evaluator config env) config.rounding env text (Token.read text) =
      Reducer.eval (.ofText text) (evaluator config env) config.rounding env
        (.start text.toList) :=
  (Reducer.eval_eq_run _ _ _ (Source.yields_ofText text _) rfl (length_tokens_lt_bound text)).symm

/-- The value of a whole text is that of a reducer. -/
theorem whole_eq_eval (text : String) :
    whole config env text = config.coerceWhole <$>
      Reducer.eval (.ofText text) (evaluator config env) config.rounding env
        (.start text.toList) := by
  rw [whole_eq, run_eq_eval]

/-- The value of a text inside another is that of a reducer. -/
theorem nested_eq_eval (text : String) :
    nested config env text =
      if Text.allBlank text.toList then Eval.fail .nothingToDo
      else config.coerceNested <$>
        Reducer.eval (.ofText text) (evaluator config env) config.rounding env
          (.start text.toList) := by
  rw [nested_eq, run_eq_eval]

/-- A run over a text comes to a value exactly if a reducer reads the text to its end. -/
theorem outcome_run_eq_ok_iff_readsTo (text : String) (v : Value) (vs vs' : Variables) :
    (Pass.run (evaluator config env) config.rounding env text (Token.read text)).outcome vs =
        (.ok v, vs') ↔
      ReadsTo config env text vs v vs' := by
  constructor
  · intro hpass
    have hyields := Source.yields_ofText text (.start text.toList)
    rcases Reducer.outcome_run _ _ _ hyields rfl (length_tokens_lt_bound text) vs hpass with
      ⟨r, hreducer, hvalue⟩
    rcases hvalue v rfl with ⟨hpulls, hnone⟩
    -- A text whose tokens can all be pulled is one that can be read.
    have hending : (Token.read text).ending = .finished r.hasMore :=
      (hpulls.eq_of_yields hnone hyields).2
    refine ⟨_, r, hreducer, ?_, hpulls, hnone⟩
    rw [Token.readAll?, hending]
    rfl
  · rintro ⟨tokens, r, hreducer, _⟩
    rw [run_eq_eval, Reducer.eval, outcome_ofOutcome, hreducer]

/-- The value of an expression inside another is what was made of that of a run. -/
theorem exists_run_of_nested {s : String} {v : Value} {vs vs' : Variables}
    (h : (nested config env s).outcome vs = (.ok v, vs')) :
    ∃ w, (Pass.run (evaluator config env) config.rounding env s (Token.read s)).outcome vs =
      (.ok w, vs') := by
  rw [nested_eq] at h
  split at h
  · cases h
  · rw [← bind_pure_comp, outcome_bind_eq_ok] at h
    rcases h with ⟨w, mid, hw, hpure⟩
    cases hpure
    exact ⟨w, hw⟩

/-- If a run over a text comes to a value, so does every run over a text inside
    it. -/
theorem exists_ok_of_enters {text s : String} {v : Value} {vs vs' mid : Variables}
    (h : (Pass.run (evaluator config env) config.rounding env text (Token.read text)).outcome vs =
      (.ok v, vs'))
    (hs : Enters config env text vs s mid) :
    ∃ w mid', (Pass.run (evaluator config env) config.rounding env s (Token.read s)).outcome mid =
      (.ok w, mid') := by
  rcases (Pass.outcome_run_eq_ok _ _ _ _ _ _ _ _).mp h with ⟨p, _, hafter, _⟩
  rcases Pass.exists_ok_of_evaluates hafter hs with ⟨w, mid', hw⟩
  rcases exists_run_of_nested hw with ⟨w', hw'⟩
  exact ⟨w', mid', hw'⟩

/-- A text that comes to a value has been read to its end, and so has every text
    inside it that was evaluated, at any depth. -/
theorem readsTo_of_whole (config : Config) (env : Env) (text : String) (v : Value)
    (vs vs' : Variables) (h : (whole config env text).outcome vs = (.ok v, vs')) :
    (∃ w, ReadsTo config env text vs w vs' ∧ v = config.coerceWhole w) ∧
    ∀ s mid, Reaches config env text vs s mid →
      ∃ w mid', ReadsTo config env s mid w mid' := by
  rw [whole_eq, ← bind_pure_comp, outcome_bind_eq_ok] at h
  rcases h with ⟨w, mid, hw, hpure⟩
  cases hpure
  refine ⟨⟨w, (outcome_run_eq_ok_iff_readsTo _ _ _ _).mp hw, rfl⟩, fun s mid hs => ?_⟩
  -- The induction is on the depth, and carries that the run comes to a value.
  have hrun : ∃ w mid', (Pass.run (evaluator config env) config.rounding env s
      (Token.read s)).outcome mid = (.ok w, mid') := by
    induction hs with
    | itself => exact ⟨w, vs', hw⟩
    | inside _ henters ih =>
        rcases ih with ⟨_, _, hrun⟩
        exact exists_ok_of_enters hrun henters
  rcases hrun with ⟨w', mid', hw'⟩
  exact ⟨w', mid', (outcome_run_eq_ok_iff_readsTo _ _ _ _).mp hw'⟩

/-- In `true || (+); [(1)]` the group that is skipped could not be evaluated. The
    text is read past it to its end, and so are the texts inside the list. -/
theorem readsTo_of_whole_skipped :
    (whole {} ⟨.null, .null⟩ "true || (+); [(1)]").outcome (.ofGlobals .empty) =
        (.ok (.list [.int 1]), .ofGlobals .empty) ∧
      (∃ w, ReadsTo {} ⟨.null, .null⟩ "true || (+); [(1)]" (.ofGlobals .empty) w
        (.ofGlobals .empty) ∧ .list [.int 1] = ({} : Config).coerceWhole w) ∧
      ∃ w vs', ReadsTo {} ⟨.null, .null⟩ "1" (.ofGlobals .empty) w vs' := by
  have hread : Token.read "true || (+); [(1)]" =
      ⟨[⟨.operand (.literal (.bool true)), ⟨0, 4⟩, false⟩, ⟨.operator .or, ⟨5, 7⟩, false⟩,
        ⟨.operand (.group "+"), ⟨8, 11⟩, false⟩, ⟨.operator .endOfStatement, ⟨11, 12⟩, false⟩,
        ⟨.operand (.list ["(1)"]), ⟨13, 18⟩, false⟩], .finished false⟩ := by
    rw [Token.read_eq 19 (by decide)]
    with_unfolding_all rfl
  have hgroup : Token.read "(1)" =
      ⟨[⟨.operand (.group "1"), ⟨0, 3⟩, false⟩], .finished false⟩ := by
    rw [Token.read_eq 4 (by decide)]
    with_unfolding_all rfl
  have hwhole : (whole {} ⟨.null, .null⟩ "true || (+); [(1)]").outcome (.ofGlobals .empty) =
      (.ok (.list [.int 1]), .ofGlobals .empty) := by
    rw [whole_eq, hread]
    with_unfolding_all rfl
  -- The list is evaluated between two statements, and the group in it at the start.
  have hlist : Enters {} ⟨.null, .null⟩ "true || (+); [(1)]" (.ofGlobals .empty) "(1)"
      (.ofGlobals .empty) := by
    rw [Enters, hread]
    refine ⟨[_, _, _, _], _, [], ⟨⟨[.value (.bool true)], false, true, 0⟩, .another, [], 0⟩,
      .list ["(1)"], .ofGlobals .empty, rfl, ?_, rfl, rfl, .head⟩
    with_unfolding_all rfl
  have hinner : Enters {} ⟨.null, .null⟩ "(1)" (.ofGlobals .empty) "1" (.ofGlobals .empty) := by
    rw [Enters, hgroup]
    exact Pass.evaluates_head rfl rfl .head
  rcases readsTo_of_whole {} ⟨.null, .null⟩ "true || (+); [(1)]" _ _ _ hwhole with
    ⟨hall, hinside⟩
  exact ⟨hwhole, hall, hinside _ _ (.inside (.inside .itself hlist) hinner)⟩

end Interpret

namespace Program

variable {config : Config} {env : Env} {text : String} {p : Program}

/-- A program hands out its tokens as they were read. -/
theorem yields_nodes (h : compile text = .ok p) :
    (Source.ofTokens p.source).Yields (p.nodes, 0) p.nodes (.finished false) := by
  refine Source.yields_ofTokens p.source 0 fun t ht name hname => ?_
  have hmem : t.map source ∈ (Token.read text).tokens := by
    rw [← (compiledFrom_compile h).nodes_eq]
    exact List.mem_map_of_mem ht
  refine (Source.yields_ofText text (.start text.toList)).negated_eq_false _ hmem name ?_
  rw [Token.map, hname]
  rfl

/-- The value of a program is that of a reducer that pulls its tokens. -/
theorem run_eq_eval (h : compile text = .ok p) :
    p.run config env = config.coerceWhole <$>
      Reducer.eval (.ofTokens p.source) (evaluator config env) config.rounding env
        (p.nodes, 0) := by
  rw [run_eq, Reducer.eval_eq_run _ _ _ (yields_nodes h) rfl (Nat.lt_succ_self _)]
  rfl

end Program

end Reckon
