import Reckon.Proofs.Exchange

/-!
# What an Evaluation Is Made Of

Whatever an evaluation does to variables, it does by looking names up and by
storing values, one after the other, until it comes to a value or fails. What
comes next may depend on what was found before, so an evaluation is a tree of
uses (`Eval.Uses`). A law about variables that holds of a single look-up and of a
single store, and is kept when they follow each other, therefore holds of every
evaluation, and the pass need not be looked at again.

The tree also says which names are stored under: those of the assignment tokens
of the text, and of the texts inside it. A pass keeps the targets that it has
read for later, so what is carried along a run is that their names are allowed.

## Main definitions

* `Eval.Uses`: An evaluation put together from look-ups and stores.
* `Token.Assigns`: The targets of the assignments in an expression.
* `Pass.Targets`: The targets whose values a pass still has to read.

## Theorems

* `Eval.uses_bind`: A sequence is put together from the uses of its parts.
* `Pass.feed_uses`: Reading one token.
* `Pass.run_uses`: A run.
* `Interpret.whole_uses`, `Program.run_uses`: The evaluation of a text and of a
  program.
-/

namespace Reckon

open Eval

variable {α β : Type} {names : String → Prop}

namespace Eval

/-- An evaluation put together from look-ups and stores. Only names that are in
    `names` are stored under, and a value it comes to is as `Q` says. -/
inductive Uses (names : String → Prop) (Q : α → Prop) : Eval α → Prop
  | value {a : α} : Q a → Uses names Q (pure a)
  | error (e : Error) : Uses names Q (throw e)
  | read (name : String) {k : Option Value → Eval α} :
      (∀ found, Uses names Q (k found)) → Uses names Q (resolve name >>= k)
  | write {name : String} (value : Value) {m : Eval α} : names name → Uses names Q m →
      Uses names Q (assign name value >>= fun _ => m)

variable {Q : α → Prop} {R : β → Prop}

theorem uses_fail (cause : Cause) : (fail cause : Eval α).Uses names Q :=
  .error _

theorem uses_ofExcept (r : Except Cause α) (h : ∀ a, r = .ok a → Q a) :
    (ofExcept r).Uses names Q := by
  cases r with
  | error cause => exact uses_fail cause
  | ok a => exact .value (h a rfl)

/-- A sequence is put together from the uses of its parts. -/
theorem uses_bind {m : Eval α} {f : α → Eval β} (hm : m.Uses names Q)
    (hf : ∀ a, Q a → (f a).Uses names R) : (m >>= f).Uses names R := by
  induction hm with
  | value ha =>
      rw [pure_bind]
      exact hf _ ha
  | error e => exact .error e
  | read name _ ih =>
      rw [bind_assoc]
      exact .read name ih
  | write value hname _ ih =>
      rw [bind_assoc]
      exact .write value hname ih

theorem uses_map {m : Eval α} (hm : m.Uses names Q) (f : α → β) (h : ∀ a, Q a → R (f a)) :
    (f <$> m).Uses names R := by
  rw [← bind_pure_comp]
  exact uses_bind hm fun a ha => .value (h a ha)

theorem uses_mapError {m : Eval α} (hm : m.Uses names Q) (f : Error → Error) :
    (m.mapError f).Uses names Q := by
  induction hm with
  | value ha => exact .value ha
  | error e => exact .error (f e)
  | read name _ ih =>
      rw [mapError_bind]
      exact .read name ih
  | write value hname _ ih =>
      rw [mapError_bind]
      exact .write value hname ih

theorem Uses.mono {names' : String → Prop} {Q' : α → Prop} {m : Eval α} (h : m.Uses names Q)
    (hnames : ∀ name, names name → names' name) (hQ : ∀ a, Q a → Q' a) : m.Uses names' Q' := by
  induction h with
  | value ha => exact .value (hQ _ ha)
  | error e => exact .error e
  | read name _ ih => exact .read name ih
  | write value hname _ ih => exact .write value (hnames _ hname) ih

end Eval

theorem Env.property_uses (path : String) (target : Value) :
    (Env.property path target).Uses names fun _ => True := by
  unfold Env.property
  split
  · exact .value trivial
  · exact .error _

theorem Env.resolve_uses (env : Env) (path : String) :
    (env.resolve path).Uses names fun _ => True := by
  unfold Env.resolve
  split
  · exact Env.property_uses _ _
  · refine .read _ fun found => ?_
    split
    · exact .value trivial
    · exact Env.property_uses _ _
    · split
      · exact .value trivial
      · exact uses_fail _

theorem Operand.elementValues_uses (nested : Nested α) (source : String) (start : Nat)
    (elements : List α) (h : ∀ a ∈ elements, (nested.eval a).Uses names fun _ => True) :
    (elementValues nested source start elements).Uses names fun _ => True := by
  induction elements generalizing start with
  | nil => exact .value trivial
  | cons a as ih =>
      refine uses_bind (uses_mapError (h a List.mem_cons_self) _) fun _ _ => ?_
      refine uses_bind (ih _ fun b hb => h b (List.mem_cons_of_mem a hb)) fun _ _ => ?_
      exact .value trivial

theorem Operand.value_uses (nested : Nested α) (env : Env) (source : String) (inside : Nat)
    (o : Operand α) (h : ∀ a ∈ o.nested, (nested.eval a).Uses names fun _ => True) :
    (o.value nested env source inside).Uses names fun _ => True := by
  cases o with
  | literal value => exact .value trivial
  | identifier path => exact env.resolve_uses path
  | self => exact .value trivial
  | group inner => exact uses_mapError (h inner List.mem_cons_self) _
  | list elements =>
      refine uses_bind (elementValues_uses nested source inside elements h) fun _ _ => ?_
      exact .value trivial

theorem Token.value_uses (nested : Nested α) (env : Env) (source : String) (t : Token α)
    (o : Operand α) (h : ∀ a ∈ o.nested, (nested.eval a).Uses names fun _ => True) :
    (t.value nested env source o).Uses names fun _ => True := by
  unfold Token.value
  refine uses_bind (o.value_uses nested env source _ h) fun v _ => ?_
  split
  · unfold Operand.inverse
    split
    · exact .value trivial
    · exact uses_fail _
  · exact .value trivial

namespace Pass

/-- Every assignment whose value is being read is to a name in `names`. -/
def Targets (names : String → Prop) (p : Pass) : Prop :=
  ∀ a ∈ p.outer, names a.target

/-- Handing the value of a frame outward stores it under the target. -/
theorem handed_uses {Q : β → Prop} (frame : Frame) (target : String)
    (place : Value → Except Cause Pass) (k : Pass → Eval β) (hname : names target)
    (hk : ∀ q, (k q).Uses names Q) :
    (do
      let v ← Eval.ofExcept (frame.assigned target)
      Eval.assign target v
      let q ← Eval.ofExcept (place v)
      k q).Uses names Q := by
  refine uses_bind (uses_ofExcept _ fun _ _ => trivial) fun v _ => ?_
  refine .write v hname ?_
  exact uses_bind (uses_ofExcept _ fun _ _ => trivial) fun q _ => hk q

theorem settle_uses (rounding : Rounding) (frame : Frame) (expecting : Expecting)
    (regroupings : Nat) (outer : List Assignment) (h : ∀ a ∈ outer, names a.target) :
    (settle rounding frame expecting regroupings outer).Uses names (Targets names) := by
  -- Closing goes outwards, and each assignment on the way writes its own target.
  induction outer generalizing frame expecting regroupings with
  | nil =>
      unfold settle
      split
      · split
        · exact uses_fail _
        · exact .value h
      · exact .value h
  | cons a outer ih =>
      have houter : ∀ b ∈ outer, names b.target := fun b hb => h b (List.mem_cons_of_mem a hb)
      unfold settle
      split
      · exact handed_uses frame a.target _ _ (h a List.mem_cons_self) fun q => ih _ _ _ houter
      · exact .value h

/-- Reading a token uses what its operand uses, and stores under the targets that
    were read before. -/
theorem feed_uses (rounding : Rounding) (p : Pass) (kind : Token.Kind α) (shown : String)
    (value : Operand α → Eval Value) (h : p.Targets names)
    (hname : ∀ name, kind = .assign name → names name)
    (hvalue : ∀ o, kind = .operand o → (value o).Uses names fun _ => True) :
    (p.feed rounding kind shown value).Uses names (Targets names) := by
  have hcases := feed_cases rounding p kind shown value
  generalize p.feed rounding kind shown value = m at hcases
  -- Only the turn that opens an assignment brings a new target into the pass.
  cases hcases with
  | turn _ houter =>
      refine .value ?_
      rcases houter with heq | ⟨a, hkind, heq⟩
      · exact fun b hb => h b (heq ▸ hb)
      · intro b hb
        rw [heq] at hb
        rcases List.mem_cons.mp hb with rfl | hb
        · exact hname _ hkind
        · exact h b hb
  | refuse _ => exact uses_fail _
  | take _ hkind =>
      refine uses_bind (hvalue _ hkind) fun v _ => ?_
      -- Placing a value leaves the open assignments alone, so settling closes those of before.
      refine uses_bind (Q := fun q => q.outer = p.outer) (uses_ofExcept _ ?_) fun q hq => ?_
      · exact fun q hplace => (placed_of_place hplace).outer_eq.trans p.outer_ready
      · exact settle_uses rounding _ _ _ _ (hq ▸ h)
  | close _ _ => exact settle_uses rounding _ _ _ _ h

theorem step_uses (nested : Nested α) (rounding : Rounding) (env : Env) (source : String)
    (p : Pass) (t : Token α) (h : p.Targets names)
    (hname : ∀ name, t.kind = .assign name → names name)
    (hnested : ∀ a ∈ t.nested, (nested.eval a).Uses names fun _ => True) :
    (p.step nested rounding env source t).Uses names (Targets names) := by
  refine uses_mapError (feed_uses rounding p t.kind _ _ h hname fun o ho => ?_) _
  refine t.value_uses nested env source o fun a ha => hnested a ?_
  rwa [Token.nested, ho]

theorem after_uses (nested : Nested α) (rounding : Rounding) (env : Env) (source : String)
    (p : Pass) (ts : List (Token α)) (h : p.Targets names)
    (hname : ∀ t ∈ ts, ∀ name, t.kind = .assign name → names name)
    (hnested : ∀ t ∈ ts, ∀ a ∈ t.nested, (nested.eval a).Uses names fun _ => True) :
    (after nested rounding env source p ts).Uses names (Targets names) := by
  -- The invariant is that every open assignment has a target of the text.
  induction ts generalizing p with
  | nil => exact .value h
  | cons t ts ih =>
      rw [after_cons]
      have hfirst := step_uses nested rounding env source p t h (hname t List.mem_cons_self)
        (hnested t List.mem_cons_self)
      exact uses_bind hfirst fun q hq => ih q hq
        (fun u hu => hname u (List.mem_cons_of_mem t hu))
        fun u hu => hnested u (List.mem_cons_of_mem t hu)

theorem finish_uses (rounding : Rounding) (frame : Frame) (expecting : Expecting)
    (regroupings : Nat) (outer : List Assignment) (h : ∀ a ∈ outer, names a.target) :
    (finish rounding frame expecting regroupings outer).Uses names fun _ => True := by
  -- As in settling: the assignments still open are written from the inside out.
  induction outer generalizing frame expecting regroupings with
  | nil =>
      unfold finish
      split
      · exact uses_fail _
      · exact uses_ofExcept _ fun _ _ => trivial
  | cons a outer ih =>
      have houter : ∀ b ∈ outer, names b.target := fun b hb => h b (List.mem_cons_of_mem a hb)
      unfold finish
      split
      · exact uses_fail _
      · exact handed_uses frame a.target _ _ (h a List.mem_cons_self) fun q => ih _ _ _ houter

/-- A run uses what the expressions inside its tokens use, and stores under the
    targets among its tokens. -/
theorem run_uses (nested : Nested α) (rounding : Rounding) (env : Env) (source : String)
    (reading : Reading α)
    (hname : ∀ t ∈ reading.tokens, ∀ name, t.kind = .assign name → names name)
    (hnested : ∀ t ∈ reading.tokens, ∀ a ∈ t.nested,
      (nested.eval a).Uses names fun _ => True) :
    (run nested rounding env source reading).Uses names fun _ => True := by
  have hstart : start.Targets names := fun a ha => absurd ha List.not_mem_nil
  unfold run
  rw [runFrom_eq]
  refine uses_bind (after_uses nested rounding env source start _ hstart hname hnested)
    fun q hq => uses_mapError ?_ _
  unfold stop
  -- A fault in the reading writes nothing any more; at the end of the text the pass finishes.
  split
  · exact .error _
  · refine finish_uses rounding _ _ _ _ ?_
    unfold atEnd
    split
    · split <;> exact hq
    · exact hq

end Pass

/-- The targets of the assignments in an expression, and in the expressions
    inside its tokens. -/
inductive Token.Assigns (tokens : α → List (Token α)) : α → String → Prop
  | here {a : α} {t : Token α} {name : String} : t ∈ tokens a → t.kind = .assign name →
      Assigns tokens a name
  | inside {a inner : α} {t : Token α} {name : String} : t ∈ tokens a → inner ∈ t.nested →
      Assigns tokens inner name → Assigns tokens a name

/-- A run over the tokens of an expression stores under the targets in it, if the
    expressions inside the tokens do. -/
theorem Pass.run_assigns (tokens : α → List (Token α)) (a : α) (nested : Nested α)
    (rounding : Rounding) (env : Env) (source : String) (ending : Reading.End)
    (h : ∀ t ∈ tokens a, ∀ inner ∈ t.nested,
      (nested.eval inner).Uses (Token.Assigns tokens inner) fun _ => True) :
    (run nested rounding env source ⟨tokens a, ending⟩).Uses (Token.Assigns tokens a)
      fun _ => True :=
  run_uses nested rounding env source ⟨tokens a, ending⟩ (fun _ ht _ hkind => .here ht hkind)
    fun t ht inner hinner =>
      (h t ht inner hinner).mono (fun _ hname => .inside ht hinner hname) fun _ => id

namespace Interpret

/-- The tokens of a text. -/
def tokens (text : String) : List (Token String) := (Token.read text).tokens

theorem nested_uses (config : Config) (env : Env) (text : String) :
    (nested config env text).Uses (Token.Assigns tokens text) fun _ => True := by
  rw [nested_eq]
  split
  · exact uses_fail _
  · have hrun := Pass.run_assigns tokens text (evaluator config env) config.rounding env text
      (Token.read text).ending fun t ht inner hinner => nested_uses config env inner
    exact uses_map hrun _ fun _ => id
termination_by text.length
decreasing_by exact Token.length_lt_of_mem_read ht inner hinner

/-- The evaluation of a text stores under the targets of its assignments. -/
theorem whole_uses (config : Config) (env : Env) (text : String) :
    (whole config env text).Uses (Token.Assigns tokens text) fun _ => True := by
  have hrun := Pass.run_assigns tokens text (evaluator config env) config.rounding env text
    (Token.read text).ending fun _ _ inner _ => nested_uses config env inner
  rw [whole_eq]
  exact uses_map hrun _ fun _ => id

end Interpret

namespace Program

theorem runNested_uses (config : Config) (env : Env) (p : Program) :
    (runNested config env p).Uses (Token.Assigns nodes p) fun _ => True := by
  have hrun := Pass.run_assigns nodes p (evaluator config env) config.rounding env p.source
    (.finished false) fun t ht inner hinner => runNested_uses config env inner
  rw [runNested_eq]
  exact uses_map hrun _ fun _ => id
termination_by sizeOf p
decreasing_by exact sizeOf_lt_of_mem_nodes ht inner hinner

/-- The run of a program stores under the targets of its assignments. -/
theorem run_uses (config : Config) (env : Env) (p : Program) :
    (run config env p).Uses (Token.Assigns nodes p) fun _ => True := by
  have hrun := Pass.run_assigns nodes p (evaluator config env) config.rounding env p.source
    (.finished false) fun _ _ inner _ => runNested_uses config env inner
  rw [run_eq]
  exact uses_map hrun _ fun _ => id

end Program

end Reckon
