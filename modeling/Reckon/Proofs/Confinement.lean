import Reckon.Loop
import Reckon.Proofs.Compile
import Reckon.Proofs.Scopes
import Reckon.Proofs.Uses

/-!
# What a Loop Leaves Behind

A loop opens a scope and leaves it when it ends, whether it succeeds or fails. In
between it evaluates its parts again and again, and what an evaluation does to scopes
are look-ups and stores. A store that is not kept by the innermost scope goes to a scope
that has the name already. So the scopes around the innermost one never gain a name and
never lose one, and only the targets of assignments change their values there
(`Eval.Uses.confined`).

This is an invariant of the scopes around the one of the loop. It holds after each part,
hence after each round and after any number of rounds, and leaving the scope of the loop
gives these scopes back (`Loop.enclosed_of_run`). Nothing depends on what the scope of
the loop itself has in it.

## Main definitions

* `Variables.Enclosed`: What is left behind by something that had a scope of its own.
* `Loop.Assigns`: The targets of the assignments in a header and a body.

## Theorems

* `Eval.Uses.confined`: What an evaluation does to the scopes around the innermost one.
* `Loop.round_uses`: A round is an evaluation of the parts of the loop.
* `Loop.iterate_confined`: Any number of rounds.
* `Loop.enclosed_of_run`: A loop keeps its variables to itself.
-/

namespace Reckon

open Eval

variable {names : String → Prop}

namespace Variables

/-- What is left behind by something that had a scope of its own: only values have
    changed, and only those of names in `names`. -/
structure Enclosed (names : String → Prop) (vs vs' : Variables) : Prop where
  /-- Every scope has the names that it had, with the values that they had. -/
  confined : Scopes.Confined names vs.scopes vs'.scopes
  isResolvable_eq : ∀ name, vs'.isResolvable name = vs.isResolvable name
  lookup?_eq : ∀ name, ¬ names name → vs'.lookup? name = vs.lookup? name
  /-- What opens a scope next finds the names that were there before, and no others. -/
  again : ∀ i name, (vs'.push.scopes.binding? i name).isSome =
    (vs.push.scopes.binding? i name).isSome

theorem enclosed_of_confined {vs vs' : Variables}
    (h : Scopes.Confined names vs.scopes vs'.scopes) : vs.Enclosed names vs' := by
  refine ⟨h, isResolvable_congr h, fun name hname => ?_, fun i name => ?_⟩
  · exact lookup?_congr fun i => h.kept i name hname
  · rw [scopes_push, scopes_push]
    cases i with
    | zero => rfl
    | succ i => exact h.isSome_eq i name

end Variables

/-- An evaluation neither adds a name to the scopes around the innermost one nor removes
    one from them, and it changes only values that it assigns to. -/
theorem Eval.Uses.confined {α : Type} {Q : α → Prop} {m : Eval α} (h : m.Uses names Q)
    (vs : Variables) :
    Scopes.Confined names (vs.scopes.drop 1) ((m.outcome vs).2.scopes.drop 1) := by
  -- Along what the computation does: reading changes no scope, and each write is to one of
  -- the names.
  induction h generalizing vs with
  | value ha => exact Scopes.confined_refl names _
  | error e => exact Scopes.confined_refl names _
  | read name _ ih =>
      have hresolve : (resolve name).outcome vs = (.ok (vs.lookup? name), vs.afterRead name) := rfl
      rw [outcome_bind_of_ok _ _ _ _ _ hresolve, ← vs.scopes_afterRead name]
      exact ih (vs.lookup? name) (vs.afterRead name)
  | @write name value m hname _ ih =>
      rw [outcome_bind_of_ok _ _ _ _ _ (outcome_assign _ _ _)]
      refine Scopes.Confined.trans ?_ (ih (vs.assign name value))
      rw [vs.scopes_assign, Scopes.drop_store Nat.one_pos]
      by_cases hheld : vs.scopes.heldFrom 1 name = true
      · -- The value goes out to a scope that has the name.
        rcases Scopes.heldFrom_eq_true_iff.mp hheld with ⟨i, hi, hheldAt⟩
        rw [if_pos hheld]
        exact (hheldAt.drop hi).confined_store hname value
      · -- It stays in the innermost scope.
        rw [if_neg hheld]
        exact Scopes.confined_refl names _

/-- An assignment in a program is an assignment in the text of which it was made. -/
theorem Program.assigns_of_compile {text name : String} {p : Program} (h : compile text = .ok p)
    (hname : Token.Assigns nodes p name) : Token.Assigns Interpret.tokens text name := by
  -- The target stands in the program itself or in one inside, and both keep their texts.
  induction hname generalizing text with
  | @here p t name ht hkind =>
      have hmem : t.map source ∈ Interpret.tokens text := by
        rw [Interpret.tokens, ← (compiledFrom_compile h).nodes_eq]
        exact List.mem_map_of_mem ht
      refine .here hmem ?_
      rw [Token.map, hkind]
      rfl
  | @inside p q t name ht hq _ ih =>
      have hmem : t.map source ∈ Interpret.tokens text := by
        rw [Interpret.tokens, ← (compiledFrom_compile h).nodes_eq]
        exact List.mem_map_of_mem ht
      have hnested : q.source ∈ (t.map source).nested := by
        rw [Token.nested_map]
        exact List.mem_map_of_mem hq
      exact .inside hmem hnested (ih ((compiledFrom_compile h).nested t ht q hq))

namespace Loop

variable (config : Config) (env : Env)

/-- The programs of a loop assign to names in `names` only. -/
structure Targets (names : String → Prop) (l : Loop) : Prop where
  first : ∀ p ∈ l.first, ∀ name, Token.Assigns Program.nodes p name → names name
  condition : ∀ name, Token.Assigns Program.nodes l.condition name → names name
  after : ∀ p ∈ l.after, ∀ name, Token.Assigns Program.nodes p name → names name
  body : ∀ p ∈ l.body, ∀ name, Token.Assigns Program.nodes p name → names name

variable {l : Loop}

theorem runPart_uses (part : Option Program)
    (h : ∀ p ∈ part, ∀ name, Token.Assigns Program.nodes p name → names name) :
    (runPart config env part).Uses names fun _ => True := by
  cases part with
  | none => exact .value trivial
  | some p =>
      have hrun := (p.run_uses config env).mono (h p rfl) fun _ => id
      exact uses_bind hrun fun _ _ => .value trivial

theorem test_uses (h : l.Targets names) : (l.test config env).Uses names fun _ => True := by
  refine uses_bind ((l.condition.run_uses config env).mono h.condition fun _ => id) fun v _ => ?_
  split
  · exact .value trivial
  · exact uses_fail _

/-- A round is put together from look-ups and stores, as its parts are. -/
theorem round_uses (h : l.Targets names) : (l.round config env).Uses names fun _ => True := by
  refine uses_bind (test_uses config env h) fun more _ => ?_
  cases more with
  | false => exact .value trivial
  | true =>
      refine uses_bind (runPart_uses config env l.body h.body) fun _ _ => ?_
      exact uses_bind (runPart_uses config env l.after h.after) fun _ _ => .value trivial

/-- A loop that ends does so after the first round, or with the rounds that follow it. -/
theorem iterate_cases {rounds : Nat} {vs vs' : Variables} {result : Except Error Value}
    (h : l.iterate config env rounds vs = some (result, vs')) :
    vs' = ((l.round config env).outcome vs).2 ∨
      ∃ r, rounds = r + 1 ∧
        l.iterate config env r ((l.round config env).outcome vs).2 = some (result, vs') := by
  unfold iterate at h
  generalize (l.round config env).outcome vs = o at h ⊢
  -- The loop goes on only if the round came to an end and asks for another.
  rcases o with ⟨e | more, mid⟩
  · cases h
    exact Or.inl rfl
  · cases more with
    | false =>
        cases h
        exact Or.inl rfl
    | true =>
        cases rounds with
        | zero => cases h
        | succ r => exact Or.inr ⟨r, rfl, h⟩

/-- What one round keeps, any number of rounds keep. -/
theorem iterate_confined (h : l.Targets names) {rounds : Nat} {vs vs' : Variables}
    {result : Except Error Value} (hrun : l.iterate config env rounds vs = some (result, vs')) :
    Scopes.Confined names (vs.scopes.drop 1) (vs'.scopes.drop 1) := by
  induction rounds generalizing vs with
  | zero =>
      rcases iterate_cases config env hrun with rfl | ⟨r, hr, _⟩
      · exact (round_uses config env h).confined vs
      · cases hr
  | succ rounds ih =>
      have hround := (round_uses config env h).confined vs
      rcases iterate_cases config env hrun with rfl | ⟨r, hr, hrest⟩
      · exact hround
      · cases hr
        exact hround.trans (ih hrest)

/-- A name is the target of an assignment in one of the parts of a header, or in a body. -/
def Assigns (header body name : String) : Prop :=
  ∃ part, (part = body ∨ ∃ parts, splitHeader header = .ok parts ∧ part ∈ parts) ∧
    Token.Assigns Interpret.tokens part name

theorem compile_of_compilePart {text : String} {part : Option Program}
    (h : compilePart text = .ok part) : ∀ p ∈ part, Program.compile text = .ok p := by
  unfold compilePart at h
  split at h
  · cases h
    exact nofun
  · intro p hp
    cases hp
    cases hc : Program.compile text with
    | error e =>
        rw [hc] at h
        cases h
    | ok q =>
        rw [hc] at h
        cases h
        rfl

/-- The programs of a compiled loop assign to the targets in its texts. -/
theorem targets_of_compile {header body : String} (h : compile header body = .ok l) :
    l.Targets (Assigns header body) := by
  rcases exists_of_bind_eq_ok h with ⟨parts, hparts, h⟩
  split at h
  · next first condition after =>
    split at h
    · cases h
    · rcases exists_of_bind_eq_ok h with ⟨first', hfirst, h⟩
      rcases exists_of_bind_eq_ok h with ⟨condition', hcondition, h⟩
      rcases exists_of_bind_eq_ok h with ⟨after', hafter, h⟩
      rcases exists_of_bind_eq_ok h with ⟨body', hbody, h⟩
      cases h
      -- Each program was compiled from its part, or from the body.
      have hpart : ∀ part ∈ [first, condition, after], ∀ p, Program.compile part = .ok p →
          ∀ name, Token.Assigns Program.nodes p name → Assigns header body name :=
        fun part hmem p hp name hname =>
          ⟨part, Or.inr ⟨_, hparts, hmem⟩, Program.assigns_of_compile hp hname⟩
      constructor
      · intro p hp
        exact hpart first (by simp) p (compile_of_compilePart hfirst p hp)
      · exact hpart condition (by simp) _ hcondition
      · intro p hp
        exact hpart after (by simp) p (compile_of_compilePart hafter p hp)
      · intro p hp name hname
        have hcompiled := compile_of_compilePart hbody p hp
        exact ⟨body, Or.inl rfl, Program.assigns_of_compile hcompiled hname⟩
  · cases h

/-- A loop keeps its variables to itself, whether it succeeds or fails and however many
    rounds it takes. -/
theorem enclosed_of_run {header body : String} (hcompile : compile header body = .ok l)
    {rounds : Nat} {vs vs' : Variables} {result : Except Error Value}
    (hrun : l.run config env rounds vs = some (result, vs')) :
    vs.Enclosed (Assigns header body) vs' := by
  have htargets := targets_of_compile hcompile
  unfold run at hrun
  rcases Option.map_eq_some_iff.mp hrun with ⟨⟨ended, inner⟩, hended, heq⟩
  cases heq
  have hfirst := (runPart_uses config env l.first htargets.first).confined vs.push
  have hinner : Scopes.Confined (Assigns header body) (vs.push.scopes.drop 1)
      (inner.scopes.drop 1) := by
    split at hended
    next heq =>
      cases hended
      rwa [heq] at hfirst
    next heq =>
      rw [heq] at hfirst
      exact hfirst.trans (iterate_confined config env htargets hended)
  rw [Variables.scopes_push, List.drop_one, List.tail_cons] at hinner
  -- The scope of the loop is still there to be left.
  have hlocal : 1 < inner.scopes.length := by
    have hlen := hinner.length_eq
    rw [List.length_drop, vs.length_scopes] at hlen
    omega
  refine Variables.enclosed_of_confined ?_
  rw [Variables.scopes_pop hlocal]
  exact hinner

/-- The loop with the header `y = 1; x; ` and the body `x = false`, where `x` is known and
    `y` is not. It changes `x`, and forgets `y`. -/
theorem enclosed_of_run_once :
    ∃ l vs', compile "y = 1; x; " "x = false" = .ok l ∧
      l.run {} ⟨.null, .null⟩ 1 (.ofGlobals ⟨[("x", .bool true)]⟩) = some (.ok .null, vs') ∧
      vs'.scopes = [⟨[("x", .bool false)]⟩] ∧
      (Variables.ofGlobals ⟨[("x", .bool true)]⟩).Enclosed
        (Assigns "y = 1; x; " "x = false") vs' := by
  have hheader : splitHeader "y = 1; x; " = .ok ["y = 1", " x", " "] := by
    have hread : Token.read "y = 1; x; " =
        ⟨[⟨.assign "y", ⟨0, 3⟩, false⟩, ⟨.operand (.literal (.int 1)), ⟨4, 5⟩, false⟩,
          ⟨.operator .endOfStatement, ⟨5, 6⟩, false⟩, ⟨.operand (.identifier "x"), ⟨7, 8⟩, false⟩,
          ⟨.operator .endOfStatement, ⟨8, 9⟩, false⟩], .finished false⟩ := by
      rw [Token.read_eq 11 (by decide)]
      rfl
    unfold splitHeader Token.readAll?
    rw [hread]
    rfl
  have hfirst : Program.compile "y = 1" = .ok ⟨"y = 1",
      [⟨.assign "y", ⟨0, 3⟩, false⟩, ⟨.operand (.literal (.int 1)), ⟨4, 5⟩, false⟩]⟩ := by
    have hread : Token.read "y = 1" = ⟨[⟨.assign "y", ⟨0, 3⟩, false⟩,
        ⟨.operand (.literal (.int 1)), ⟨4, 5⟩, false⟩], .finished false⟩ := by
      rw [Token.read_eq 6 (by decide)]
      rfl
    rw [Program.compile_eq, hread]
    rfl
  have hcondition : Program.compile " x" = .ok ⟨" x",
      [⟨.operand (.identifier "x"), ⟨1, 2⟩, false⟩]⟩ := by
    have hread : Token.read " x" =
        ⟨[⟨.operand (.identifier "x"), ⟨1, 2⟩, false⟩], .finished false⟩ := by
      rw [Token.read_eq 3 (by decide)]
      rfl
    rw [Program.compile_eq, hread]
    rfl
  have hbody : Program.compile "x = false" = .ok ⟨"x = false",
      [⟨.assign "x", ⟨0, 3⟩, false⟩, ⟨.operand (.literal (.bool false)), ⟨4, 9⟩, false⟩]⟩ := by
    have hread : Token.read "x = false" = ⟨[⟨.assign "x", ⟨0, 3⟩, false⟩,
        ⟨.operand (.literal (.bool false)), ⟨4, 9⟩, false⟩], .finished false⟩ := by
      rw [Token.read_eq 10 (by decide)]
      rfl
    rw [Program.compile_eq, hread]
    rfl
  have hcompile : compile "y = 1; x; " "x = false" = .ok
      ⟨some ⟨"y = 1",
          [⟨.assign "y", ⟨0, 3⟩, false⟩, ⟨.operand (.literal (.int 1)), ⟨4, 5⟩, false⟩]⟩,
        ⟨" x", [⟨.operand (.identifier "x"), ⟨1, 2⟩, false⟩]⟩, none,
        some ⟨"x = false",
          [⟨.assign "x", ⟨0, 3⟩, false⟩, ⟨.operand (.literal (.bool false)), ⟨4, 9⟩, false⟩]⟩⟩ := by
    have hfirstPart : compilePart "y = 1" = some <$> Program.compile "y = 1" := rfl
    have hbodyPart : compilePart "x = false" = some <$> Program.compile "x = false" := rfl
    unfold compile
    rw [hheader]
    change (compilePart "y = 1" >>= fun first => Program.compile " x" >>= fun condition =>
      compilePart " " >>= fun after => compilePart "x = false" >>= fun body =>
        pure (Loop.mk first condition after body)) = _
    rw [hfirstPart, hbodyPart, hfirst, hcondition, hbody]
    rfl
  obtain ⟨l, hl, hrun⟩ : ∃ l, compile "y = 1; x; " "x = false" = .ok l ∧
      l.run {} ⟨.null, .null⟩ 1 (.ofGlobals ⟨[("x", .bool true)]⟩) = some (.ok .null,
        ⟨[], ⟨[("x", .bool false)]⟩, [.read "x", .write "x" (.bool false), .read "x", .read "x",
          .read "y"]⟩) :=
    ⟨_, hcompile, by with_unfolding_all rfl⟩
  exact ⟨l, _, hl, hrun, rfl, enclosed_of_run {} ⟨.null, .null⟩ hl hrun⟩

end Loop

end Reckon
