import Reckon.Proofs.Record

/-!
# The Footprint of an Evaluation

An evaluation depends on the variables that it looks up and changes those that
it assigns to, and its record tells which they are. From other bindings in which
the names looked up mean the same, it comes to the same and makes the same uses
in the same order. What it leaves behind is what it found, with the recorded
stores done in order, and names that are no target of an assignment in the
expression keep their values. All of this holds whether the evaluation succeeds
or fails.

Evaluations are trees of uses, and the argument follows one path through the
tree. A look-up goes on in the same branch where the name means the same. After
a store, bindings that were alike in a name still are, since the same value was
stored in both.

## Main definitions

* `Bindings.replay`: The bindings after the stores of a record.
* `Bindings.AlikeFor`: The names that a record looks up mean the same.
* `Eval.Traces`: What an evaluation comes to, and its uses.
* `Eval.Framed`: An evaluation that depends on and changes what it names.

## Theorems

* `Bindings.find?_replay`: Names that nothing was stored under keep their value.
* `Eval.Uses.exists_traces`: Every tree of uses has a path from every bindings.
* `Eval.Uses.framed`: It depends on and changes what is named in it.
* `evaluation_framed`: So does the evaluation of a text, and that of a program.
-/

namespace Reckon

open Eval

variable {α : Type}

namespace Bindings

/-- The bindings after the stores of a record, whose newest use comes first. -/
def replay (b : Bindings) : List Access → Bindings
  | [] => b
  | .read _ :: as => b.replay as
  | .write name value :: as => (b.replay as).insert name value

theorem replay_append (b : Bindings) (newer older : List Access) :
    b.replay (newer ++ older) = (b.replay older).replay newer := by
  induction newer with
  | nil => rfl
  | cons a as ih =>
      cases a with
      | read name => exact ih
      | write name value => exact congrArg (insert · name value) ih

/-- A name that nothing was stored under keeps its value. -/
theorem find?_replay (b : Bindings) (name : String) (as : List Access)
    (h : ∀ value, .write name value ∉ as) : (b.replay as).find? name = b.find? name := by
  induction as with
  | nil => rfl
  | cons a as ih =>
      have hrest := ih fun value hmem => h value (List.mem_cons_of_mem a hmem)
      cases a with
      | read other => exact hrest
      | write other value =>
          have hne : name ≠ other := fun heq => h value (heq ▸ List.mem_cons_self)
          rw [replay, find?_insert, if_neg hne, hrest]

/-- The names that a record looks up mean the same in two bindings. -/
def AlikeFor (as : List Access) (b b' : Bindings) : Prop :=
  ∀ name, .read name ∈ as → b.find? name = b'.find? name

theorem AlikeFor.of_append_left {newer older : List Access} {b b' : Bindings}
    (h : AlikeFor (newer ++ older) b b') : AlikeFor newer b b' :=
  fun name hmem => h name (List.mem_append_left older hmem)

/-- Storing the same value in both keeps bindings alike. -/
theorem AlikeFor.insert {as : List Access} {b b' : Bindings} (h : AlikeFor as b b')
    (name : String) (value : Value) : AlikeFor as (b.insert name value) (b'.insert name value) := by
  intro other hmem
  rw [find?_insert, find?_insert, h other hmem]

end Bindings

namespace Eval

/-- From `b`, and from all bindings alike for the names looked up, an evaluation
    comes to `r` by the uses `as`: it leaves the bindings with the stores done,
    and its uses on top of the record. -/
def Traces (m : Eval α) (b : Bindings) (r : Except Error α) (as : List Access) : Prop :=
  ∀ b', b.AlikeFor as b' → ∀ earlier,
    m.outcome ⟨[], b', earlier⟩ = (r, ⟨[], b'.replay as, as ++ earlier⟩)

/-- Every tree of uses has a path through it, on which only the names that are
    allowed are stored under. -/
theorem Uses.exists_traces {names : String → Prop} {Q : α → Prop} {m : Eval α}
    (h : m.Uses names Q) (b : Bindings) :
    ∃ r as, m.Traces b r as ∧ ∀ name value, .write name value ∈ as → names name := by
  induction h generalizing b with
  | value => exact ⟨_, [], fun _ _ _ => rfl, fun _ _ hmem => absurd hmem List.not_mem_nil⟩
  | error e => exact ⟨_, [], fun _ _ _ => rfl, fun _ _ hmem => absurd hmem List.not_mem_nil⟩
  | read name _ ih =>
      -- Where the name means the same, the evaluation goes on in the same branch.
      rcases ih (b.find? name) b with ⟨r, as, htraces, hwrites⟩
      refine ⟨r, as ++ [.read name], fun b' halike earlier => ?_, fun other value hmem => ?_⟩
      · have hfound : b'.find? name = b.find? name :=
          (halike name (List.mem_append_right as List.mem_cons_self)).symm
        have hresolve : (resolve name).outcome ⟨[], b', earlier⟩ =
            (.ok (b.find? name), ⟨[], b', .read name :: earlier⟩) := by
          rw [← hfound]
          rfl
        have hrest := htraces b' halike.of_append_left (.read name :: earlier)
        rw [outcome_bind_of_ok _ _ _ _ _ hresolve, hrest, Bindings.replay_append,
          List.append_assoc]
        rfl
      · refine hwrites other value ((List.mem_append.mp hmem).resolve_right fun hread => ?_)
        cases List.mem_singleton.mp hread
  | @write name value m hname _ ih =>
      rcases ih (b.insert name value) with ⟨r, as, htraces, hwrites⟩
      refine ⟨r, as ++ [.write name value], fun b' halike earlier => ?_, fun other v hmem => ?_⟩
      · have hrest := htraces (b'.insert name value) (halike.of_append_left.insert name value)
          (.write name value :: earlier)
        rw [outcome_bind_of_ok _ _ _ _ _ (outcome_assign _ _ _), Bindings.replay_append,
          List.append_assoc]
        exact hrest
      · rcases List.mem_append.mp hmem with hold | hnew
        · exact hwrites other v hold
        · cases List.mem_singleton.mp hnew
          exact hname

/-- An evaluation over one scope that depends on the variables it looks up and
    changes those it assigns to, whether it succeeds or fails. Only names in
    `names` are assigned to. -/
structure Framed (names : String → Prop) (m : Eval α) : Prop where
  /-- Where the names that are looked up mean the same, the outcome is the same,
      and so are the uses, in order. -/
  congr : ∀ b b' : Bindings, b.AlikeFor (m.accesses (.ofGlobals b)) b' →
    (m.outcome (.ofGlobals b')).1 = (m.outcome (.ofGlobals b)).1 ∧
      m.accesses (.ofGlobals b') = m.accesses (.ofGlobals b)
  /-- The variables are left as they were found, with the stores done in order. -/
  replays : ∀ b : Bindings, (m.outcome (.ofGlobals b)).2 =
    ⟨[], b.replay (m.accesses (.ofGlobals b)), m.accesses (.ofGlobals b)⟩
  /-- A variable that is no target keeps its value. -/
  keeps : ∀ (b : Bindings) (name : String), ¬ names name →
    (m.outcome (.ofGlobals b)).2.globals.find? name = b.find? name

/-- What is put together from uses depends on and changes what is named in it. -/
theorem Uses.framed {names : String → Prop} {Q : α → Prop} {m : Eval α} (h : m.Uses names Q) :
    m.Framed names := by
  -- A path from `b` is the run from `b` itself, as bindings are alike to themselves.
  have hpath : ∀ b, ∃ r as, m.Traces b r as ∧
      (∀ name value, .write name value ∈ as → names name) ∧
      m.outcome (.ofGlobals b) = (r, ⟨[], b.replay as, as⟩) := by
    intro b
    rcases h.exists_traces b with ⟨r, as, htraces, hwrites⟩
    refine ⟨r, as, htraces, hwrites, ?_⟩
    rw [Variables.ofGlobals, htraces b (fun _ _ => rfl) [], List.append_nil]
  have haccesses : ∀ b, m.accesses (.ofGlobals b) = (m.outcome (.ofGlobals b)).2.accesses :=
    fun _ => rfl
  constructor
  · intro b b' halike
    rcases hpath b with ⟨r, as, htraces, -, hb⟩
    rw [haccesses, hb] at halike
    have hb' := htraces b' halike []
    rw [haccesses, haccesses, hb, Variables.ofGlobals, hb', List.append_nil]
    exact ⟨rfl, rfl⟩
  · intro b
    rcases hpath b with ⟨r, as, -, -, hb⟩
    rw [haccesses, hb]
  · intro b name hname
    rcases hpath b with ⟨r, as, -, hwrites, hb⟩
    rw [hb]
    exact b.find?_replay name as fun value hmem => hname (hwrites name value hmem)

end Eval

/-- The evaluation of a text, and of a program, depends on the variables it looks
    up and changes only targets of assignments in it. -/
theorem evaluation_framed (config : Config) (env : Env) :
    (∀ text, (Interpret.whole config env text).Framed (Token.Assigns Interpret.tokens text)) ∧
      ∀ p, (Program.run config env p).Framed (Token.Assigns Program.nodes p) :=
  ⟨fun text => (Interpret.whole_uses config env text).framed,
    fun p => (Program.run_uses config env p).framed⟩

end Reckon
