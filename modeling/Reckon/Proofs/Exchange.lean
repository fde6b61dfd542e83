import Reckon.Program
import Reckon.Proofs.Operand
import Reckon.Proofs.Run

/-!
# Exchanging the Expressions inside Tokens

A pass never looks into the expressions that its tokens hold. It shows them and
has them evaluated, and for both it asks whoever holds the tokens. A run over
tokens with other expressions inside is therefore the same run with another
evaluator (`Pass.run_map`), and evaluators that agree on the expressions that
are really evaluated lead to the same run (`Pass.after_congr`).

This has two uses. The texts inside a text come with the fact that they are
shorter, and the programs inside a program with the fact that they are smaller.
The facts are there for the recursions to end, and once these are unfolded the
expressions may be taken for what they are (`Interpret.nested_eq`,
`Program.runNested_eq`). And a program is a text whose expressions were
exchanged for their programs, so that running it is a run over the tokens of
the text.

## Main definitions

* `Reading.map`: The same reading over other expressions.
* `Pass.Evaluates`: Which expressions a run evaluates, and from where.
* `Interpret.evaluator`, `Program.evaluator`: How texts and programs inside
  tokens are shown and evaluated.
* `Interpret.pass`: The pass over a text.

## Theorems

* `Pass.feed_map`: A token whose expressions were exchanged.
* `Pass.run_map`: A run whose expressions were exchanged.
* `Pass.after_congr`: Evaluators that agree where they are used.
* `Interpret.nested_eq`, `Interpret.whole_eq`: The value of a text.
* `Program.runNested_eq`, `Program.run_eq`: The value of a program.
-/

namespace Reckon

open Eval

variable {α β γ : Type}

section Map

theorem Operand.map_map (g : β → γ) (f : α → β) (o : Operand α) :
    (o.map f).map g = o.map (g ∘ f) := by
  cases o with
  | list elements => simp only [Operand.map, List.map_map]
  | _ => rfl

theorem Token.Kind.map_map (g : β → γ) (f : α → β) (kind : Token.Kind α) :
    (kind.map f).map g = kind.map (g ∘ f) := by
  cases kind with
  | operand o => simp only [Token.Kind.map, Operand.map_map]
  | _ => rfl

theorem Token.map_id (t : Token α) : t.map id = t := by
  rcases t with ⟨kind, span, negated⟩
  rcases kind with op | (v | path | _ | a | elements) | name
  case operand.list => simp only [Token.map, Token.Kind.map, Operand.map, List.map_id]
  all_goals rfl

theorem Token.map_map (g : β → γ) (f : α → β) (t : Token α) :
    (t.map f).map g = t.map (g ∘ f) := by
  simp only [Token.map, Token.Kind.map_map]

/-- The expressions that took the places of those inside an operand. -/
theorem Operand.nested_map (f : α → β) (o : Operand α) : (o.map f).nested = o.nested.map f := by
  cases o <;> rfl

theorem Token.nested_map (f : α → β) (t : Token α) : (t.map f).nested = t.nested.map f := by
  rcases t with ⟨op | o | name, span, negated⟩
  · rfl
  · exact o.nested_map f
  · rfl

/-- Taking the facts away from the expressions of an operand that they were
    attached to. -/
theorem Operand.map_attach {P : α → Prop} (o : Operand α) (h : ∀ a ∈ o.nested, P a) :
    (o.attach h).map Subtype.val = o := by
  cases o with
  | list elements => exact congrArg Operand.list (List.attachWith_map_subtype_val h)
  | _ => rfl

theorem Token.Kind.map_attach {P : α → Prop} (kind : Token.Kind α)
    (h : ∀ a ∈ kind.nested, P a) : (kind.attach h).map Subtype.val = kind := by
  cases kind with
  | operand o => exact congrArg Token.Kind.operand (o.map_attach h)
  | _ => rfl

theorem Token.map_attach {P : α → Prop} (t : Token α) (h : ∀ a ∈ t.nested, P a) :
    (t.attach h).map Subtype.val = t := by
  rcases t with ⟨kind, span, negated⟩
  exact congrArg (fun k => (⟨k, span, negated⟩ : Token α)) (kind.map_attach h)

/-- The same reading over other expressions. -/
def Reading.map (f : α → β) (r : Reading α) : Reading β :=
  ⟨r.tokens.map (Token.map f), r.ending⟩

theorem Reading.map_attach {P : α → Prop} (r : Reading α)
    (h : ∀ t ∈ r.tokens, ∀ a ∈ t.nested, P a) : (r.attach h).map Subtype.val = r := by
  simp only [Reading.attach, Reading.map, List.map_pmap, Token.map_attach, List.pmap_eq_map,
    List.map_id']

end Map

namespace Pass

/-- A token whose expressions were exchanged is read as the token is. -/
theorem feed_map (f : β → α) (rounding : Rounding) (p : Pass) (kind : Token.Kind β)
    (shown : String) (value : Operand α → Eval Value) :
    p.feed rounding (kind.map f) shown value =
      p.feed rounding kind shown fun o => value (o.map f) := by
  -- A pass looks at what kind of token it has, and hands the operand on.
  have hop : (kind.map f).operator? = kind.operator? := by
    cases kind <;> rfl
  have hstatement (q : Pass) : q.feedStatement rounding (kind.map f) shown value =
      q.feedStatement rounding kind shown fun o => value (o.map f) := by
    rcases hst : q.frame.stack with _ | ⟨v | o, below⟩ <;>
      cases kind <;> simp only [feedStatement, hst, Token.Kind.map]
  have hright (op : Operator) (slot : Slot) :
      p.feedRight rounding op slot (kind.map f) shown value =
        p.feedRight rounding op slot kind shown fun o => value (o.map f) := by
    cases kind <;> rfl
  cases hexp : p.expecting with
  | statement => simp only [feed, hexp, hstatement]
  | another => simp only [feed, hexp, hstatement]
  | right op => simp only [feed, hexp, hright]
  | regroupRight op left right next => simp only [feed, hexp, hright]
  | regroup op left right => simp only [feed, hexp, hop]
  | statementEnd => simp only [feed, hexp, hop]
  | elseBranch depth => simp only [feed, hexp, hop]

theorem step_map (f : β → α) (nested : Nested α) (rounding : Rounding) (env : Env)
    (source : String) (p : Pass) (t : Token β) :
    p.step nested rounding env source (t.map f) =
      p.step (nested.comap f) rounding env source t := by
  have hfeed := feed_map f rounding p t.kind ((t.map f).map nested.text).text
    ((t.map f).value nested env source)
  simp only [Token.value_map, Token.map_map] at hfeed
  unfold step
  rw [Token.map_map]
  exact congrArg (locate source t.span.stop) hfeed

theorem after_map (f : β → α) (nested : Nested α) (rounding : Rounding) (env : Env)
    (source : String) (p : Pass) (ts : List (Token β)) :
    after nested rounding env source p (ts.map (Token.map f)) =
      after (nested.comap f) rounding env source p ts := by
  unfold after
  rw [List.foldlM_map]
  simp only [step_map]

theorem lastStop_map (f : β → α) (cursor : Nat) (ts : List (Token β)) :
    lastStop cursor (ts.map (Token.map f)) = lastStop cursor ts := by
  unfold lastStop
  rw [List.foldl_map]
  rfl

/-- A run over tokens whose expressions were exchanged is the run over the
    tokens, with an evaluator for the expressions that came instead. -/
theorem run_map (f : β → α) (nested : Nested α) (rounding : Rounding) (env : Env)
    (source : String) (reading : Reading β) :
    run nested rounding env source (reading.map f) =
      run (nested.comap f) rounding env source reading := by
  unfold run
  rw [runFrom_eq, runFrom_eq]
  simp only [Reading.map, after_map, lastStop_map]

/-- Reading `tokens` from `p` and `vs` comes to evaluate the expression `a` from
    `vs'`: a token that holds it is an operand that the pass takes. -/
def Evaluates (nested : Nested α) (rounding : Rounding) (env : Env) (source : String) (p : Pass)
    (tokens : List (Token α)) (vs : Variables) (a : α) (vs' : Variables) : Prop :=
  ∃ ts t us q o mid, tokens = ts ++ t :: us ∧
    (after nested rounding env source p ts).outcome vs = (.ok q, mid) ∧ q.slot?.isSome ∧
    t.kind = .operand o ∧ nested.Visits o.nested mid a vs'

/-- Expressions inside the first token. -/
theorem evaluates_head {nested : Nested α} {rounding : Rounding} {env : Env} {source : String}
    {p : Pass} {t : Token α} {ts : List (Token α)} {vs vs' : Variables} {o : Operand α} {a : α}
    (hslot : p.slot?.isSome) (ho : t.kind = .operand o) (h : nested.Visits o.nested vs a vs') :
    Evaluates nested rounding env source p (t :: ts) vs a vs' :=
  ⟨[], t, ts, p, o, vs, rfl, rfl, hslot, ho, h⟩

/-- Expressions inside later tokens. -/
theorem evaluates_tail {nested : Nested α} {rounding : Rounding} {env : Env} {source : String}
    {p q : Pass} {t : Token α} {ts : List (Token α)} {vs mid vs' : Variables} {a : α}
    (hstep : (p.step nested rounding env source t).outcome vs = (.ok q, mid))
    (h : Evaluates nested rounding env source q ts mid a vs') :
    Evaluates nested rounding env source p (t :: ts) vs a vs' := by
  rcases h with ⟨us, u, ws, q', o, mid', rfl, hafter, hslot, ho, hvisits⟩
  refine ⟨t :: us, u, ws, q', o, mid', rfl, ?_, hslot, ho, hvisits⟩
  rw [after_cons, outcome_bind_of_ok _ _ _ _ _ hstep]
  exact hafter

/-- Expressions that are evaluated are expressions inside tokens. -/
theorem Evaluates.mem {nested : Nested α} {rounding : Rounding} {env : Env} {source : String}
    {p : Pass} {ts : List (Token α)} {vs vs' : Variables} {a : α}
    (h : Evaluates nested rounding env source p ts vs a vs') : ∃ t ∈ ts, a ∈ t.nested := by
  rcases h with ⟨us, t, ws, _, o, _, rfl, _, _, ho, hvisits⟩
  refine ⟨t, List.mem_append_right _ List.mem_cons_self, ?_⟩
  unfold Token.nested
  rw [ho]
  exact hvisits.mem

/-- Expressions evaluated under other names are evaluated under their own. -/
theorem Evaluates.of_comap {f : β → α} {nested : Nested α} {rounding : Rounding} {env : Env}
    {source : String} {p : Pass} {ts : List (Token β)} {vs vs' : Variables} {b : β}
    (h : Evaluates (nested.comap f) rounding env source p ts vs b vs') :
    Evaluates nested rounding env source p (ts.map (Token.map f)) vs (f b) vs' := by
  rcases h with ⟨us, t, ws, q, o, mid, rfl, hafter, hslot, ho, hvisits⟩
  refine ⟨us.map (Token.map f), t.map f, ws.map (Token.map f), q, o.map f, mid, ?_, ?_, hslot,
    ?_, ?_⟩
  · rw [List.map_append, List.map_cons]
  · rw [after_map]
    exact hafter
  · simp only [Token.map, ho, Token.Kind.map]
  · rw [o.nested_map]
    exact hvisits.of_comap

/-- Evaluators that agree on the expressions that are evaluated lead to the same
    pass. -/
theorem after_congr (nested nested' : Nested α) (rounding : Rounding) (env : Env)
    (source : String) (p : Pass) (ts : List (Token α)) (vs : Variables)
    (htext : nested.text = nested'.text)
    (h : ∀ a vs', Evaluates nested rounding env source p ts vs a vs' →
      (nested.eval a).outcome vs' = (nested'.eval a).outcome vs') :
    (after nested rounding env source p ts).outcome vs =
      (after nested' rounding env source p ts).outcome vs := by
  induction ts generalizing p vs with
  | nil => rfl
  | cons t ts ih =>
      rw [after_cons, after_cons]
      refine outcome_bind_congr _ _ _ _ vs ?_ fun q mid hq =>
        ih q mid fun a vs' ha => h a vs' (evaluates_tail hq ha)
      -- The first token: its operand is evaluated only if the pass takes it.
      unfold step
      rw [htext]
      refine outcome_mapError_congr _ _ _ vs (feed_congr rounding p t.kind _ _ _ vs ?_)
      intro o ho hslot
      exact t.value_congr nested nested' env source o vs htext fun a vs' ha =>
        h a vs' (evaluates_head hslot ho ha)

/-- Facts attached to expressions make no difference to a run. -/
theorem run_attach {P : α → Prop} (nested : Nested α) (rounding : Rounding) (env : Env)
    (source : String) (reading : Reading α) (h : ∀ t ∈ reading.tokens, ∀ a ∈ t.nested, P a) :
    run (nested.comap Subtype.val) rounding env source (reading.attach h) =
      run nested rounding env source reading := by
  rw [← run_map, Reading.map_attach]

end Pass

namespace Interpret

/-- Expressions that are texts: they show as they are, and are interpreted. -/
def evaluator (config : Config) (env : Env) : Nested String :=
  ⟨id, nested config env⟩

/-- The pass over all tokens of a text. -/
def pass (config : Config) (env : Env) (text : String) : Eval Pass :=
  Pass.after (evaluator config env) config.rounding env text Pass.start (Token.read text).tokens

/-- The value of an expression inside another is that of a pass over its
    tokens, unless it is blank. -/
theorem nested_eq (config : Config) (env : Env) (text : String) :
    nested config env text =
      if Text.allBlank text.toList then Eval.fail .nothingToDo
      else config.coerceNested <$>
        Pass.run (evaluator config env) config.rounding env text (Token.read text) := by
  rw [nested, ← Pass.run_attach]
  rfl

/-- The value of a whole expression is that of a pass over its tokens. -/
theorem whole_eq (config : Config) (env : Env) (text : String) :
    whole config env text = config.coerceWhole <$>
      Pass.run (evaluator config env) config.rounding env text (Token.read text) := by
  rw [whole, ← Pass.run_attach]
  rfl

end Interpret

namespace Program

/-- Expressions that are programs: they show as their texts, and are run. -/
def evaluator (config : Config) (env : Env) : Nested Program :=
  ⟨source, runNested config env⟩

/-- The value of a program inside another is that of a pass over its tokens. -/
theorem runNested_eq (config : Config) (env : Env) (p : Program) :
    runNested config env p = config.coerceNested <$>
      Pass.run (evaluator config env) config.rounding env p.source p.toReading := by
  rw [runNested, ← Pass.run_attach]
  rfl

/-- The value of a program is that of a pass over its tokens. -/
theorem run_eq (config : Config) (env : Env) (p : Program) :
    run config env p = config.coerceWhole <$>
      Pass.run (evaluator config env) config.rounding env p.source p.toReading := by
  rw [run, ← Pass.run_attach]
  rfl

end Program

end Reckon
