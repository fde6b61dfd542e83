import Reckon.Engine
import Reckon.Proofs.Compile
import Reckon.Proofs.Spans
import Reckon.Proofs.StackShape

/-!
# Where Errors Are Placed

Every error that an engine reports has a place in the text it was asked about:
the whole of that text, and an offset at which no character is cut in two.

An error is placed in two moves. A pass places what has no place yet in its own
text, at the end of the token read last. An expression inside another has a text
of its own, so its error is moved outward by the offset at which that text was
found. In between, an error may have no place, or only an offset. `Error.Within`
is what holds all the way: as far as the place of an error is known, it is in
the text. A pass keeps it because tokens stand in the text, and moving outward
keeps it because texts inside a token do (`Error.Within.lifted`). Placing turns
it into what is reported (`Error.Within.located`).

Compiling moves errors in the same way, one level after the other, and finds
the texts inside a token by the same searches.

## Main definitions

* `Error.PlacedIn`: An error with its place in a text.
* `Error.Within`: An error whose place is in a text as far as it is known.
* `Cache.Faithful`: A cache that holds the trimmed forms of its texts.
* `Engine.Reached`: The engines that using an engine leads to.
* `Engine.subject`: The text that an evaluation is about.

## Theorems

* `Pass.run_placed`: Every error of a run is placed.
* `Interpret.whole_placed`, `Program.run_placed`: So is every error of an
  evaluation.
* `Program.compile_placed`: So is every error of a compilation.
* `Engine.placed_of_error`: So is every error that an engine reports.
-/

namespace Reckon

open Eval Text

variable {α : Type}

namespace Error

/-- An error with its place in `text`: the whole text, and one of its valid
    positions. -/
structure PlacedIn (text : String) (e : Error) : Prop where
  expr : e.expr = some text
  cursor : ∃ n, e.cursor = some n ∧ n ≤ text.utf8ByteSize ∧ String.Pos.Raw.IsValid text ⟨n⟩

/-- An error whose place is in `text`, as far as it is known. -/
structure Within (text : String) (e : Error) : Prop where
  expr : ∀ s, e.expr = some s → s = text
  cursor : ∀ n, e.cursor = some n → Boundary text.toList n

theorem within_of (text : String) (cause : Cause) : (of cause).Within text :=
  ⟨nofun, nofun⟩

theorem PlacedIn.within {text : String} {e : Error} (h : e.PlacedIn text) : e.Within text := by
  rcases h.cursor with ⟨n, hn, _, hvalid⟩
  refine ⟨fun s hs => ?_, fun m hm => ?_⟩
  · rw [h.expr] at hs
    exact (Option.some.inj hs).symm
  · rw [hn] at hm
    rw [← Option.some.inj hm]
    exact boundary_iff_isValid.mpr hvalid

/-- Placing an error in a text it is within. -/
theorem Within.located {text : String} {e : Error} {n : Nat} (h : e.Within text)
    (hn : Boundary text.toList n) : (e.located text n).PlacedIn text := by
  rcases e with ⟨cause, expr, cursor⟩
  have hexpr : expr.getD text = text := by
    cases expr with
    | none => rfl
    | some s => exact h.expr s rfl
  have hcursor : Boundary text.toList (cursor.getD n) := by
    cases cursor with
    | none => exact hn
    | some m => exact h.cursor m rfl
  have hvalid := boundary_iff_isValid.mp hcursor
  exact ⟨congrArg some hexpr, _, rfl, hvalid.le_utf8ByteSize, hvalid⟩

/-- Moving an error outward, to the text that its own text was found in. -/
theorem Within.lifted {inner source : String} {e : Error} {offset : Nat} {after : List Char}
    (h : e.Within inner) (hinner : TailAt source.toList offset (inner.toList ++ after)) :
    (e.lifted offset).Within source := by
  refine ⟨nofun, fun n hn => ?_⟩
  -- An error without an offset is taken to be at the start of its text.
  have hcursor : Boundary inner.toList (e.cursor.getD 0) := by
    cases hc : e.cursor with
    | none => exact (tailAt_zero _).boundary
    | some m => exact h.cursor m hc
  rw [← Option.some.inj hn]
  exact hcursor.moved hinner

/-- The error of a text that does not read. -/
theorem within_ofFault {text : String} {fault : Token.Fault}
    (h : Boundary text.toList fault.pos) : (ofFault fault).Within text := by
  refine ⟨nofun, fun n hn => ?_⟩
  rw [← Option.some.inj hn]
  exact h

end Error

/-- The texts inside a token that stands in a text. -/
theorem Token.Stands.holds {source : String} {textOf : α → String} {t : Token α} {o : Operand α}
    (h : (t.map textOf).Stands source.toList) (ho : t.kind = .operand o) :
    Holds source.toList (t.span.start + 1) ((o.nested.map textOf).map String.toList) := by
  have hnested : t.nested = o.nested := by
    rw [Token.nested, ho]
    rfl
  have hstands := h.nested
  rwa [Token.nested_map, hnested] at hstands

namespace Operand

variable {nested : Nested α} {source : String}

/-- Elements that stand in order are found, and their errors moved by where they
    were found. -/
theorem elementValues_within {start : Nat} {elements : List α}
    (hholds : Holds source.toList start ((elements.map nested.text).map String.toList))
    (h : ∀ a ∈ elements,
      (nested.eval a).Ensures (fun _ => True) (Error.Within (nested.text a))) :
    (elementValues nested source start elements).Ensures (fun _ => True)
      (Error.Within source) := by
  induction elements generalizing start with
  | nil => exact ensures_pure _ trivial
  | cons a as ih =>
      rcases hholds.find with ⟨after, hfound, hrest⟩
      rw [width_toList] at hrest
      have ha := h a List.mem_cons_self
      refine ensures_bind (ensures_mapError ha fun e he => he.lifted hfound) fun _ _ => ?_
      refine ensures_bind (ih hrest fun b hb => h b (List.mem_cons_of_mem _ hb)) fun _ _ => ?_
      exact ensures_pure _ trivial

theorem value_within {env : Env} {inside : Nat} {o : Operand α}
    (hholds : Holds source.toList inside ((o.nested.map nested.text).map String.toList))
    (h : ∀ a ∈ o.nested,
      (nested.eval a).Ensures (fun _ => True) (Error.Within (nested.text a))) :
    (o.value nested env source inside).Ensures (fun _ => True) (Error.Within source) := by
  cases o with
  | literal value => exact ensures_pure _ trivial
  | identifier path =>
      exact Env.resolve_ensures (fun cause _ => Error.within_of source cause) env path
  | self => exact ensures_pure _ trivial
  | group inner =>
      rcases hholds.find with ⟨after, hfound, _⟩
      exact ensures_mapError (h inner (List.mem_singleton_self _)) fun e he => he.lifted hfound
  | list elements =>
      exact ensures_bind (elementValues_within hholds h) fun _ _ => ensures_pure _ trivial

end Operand

/-- The errors of an operand are within the text that its token stands in. -/
theorem Token.value_within {nested : Nested α} {env : Env} {source : String} {t : Token α}
    {o : Operand α} (ht : (t.map nested.text).Stands source.toList) (ho : t.kind = .operand o)
    (h : ∀ a ∈ t.nested,
      (nested.eval a).Ensures (fun _ => True) (Error.Within (nested.text a))) :
    (t.value nested env source o).Ensures (fun _ => True) (Error.Within source) := by
  have hnested : t.nested = o.nested := by
    rw [Token.nested, ho, Token.Kind.nested]
  rw [hnested] at h
  unfold Token.value
  refine ensures_bind (Operand.value_within (ht.holds ho) h) fun v _ => ?_
  split
  · exact Operand.inverse_ensures (fun cause _ => Error.within_of source cause) v
  · exact ensures_pure _ trivial

namespace Pass

variable {nested : Nested α} {rounding : Rounding} {env : Env} {source : String}

/-- A token places its errors at its end. -/
theorem step_placed {p : Pass} {t : Token α} (hp : p.Shaped)
    (ht : (t.map nested.text).Stands source.toList)
    (h : ∀ a ∈ t.nested,
      (nested.eval a).Ensures (fun _ => True) (Error.Within (nested.text a))) :
    (p.step nested rounding env source t).Ensures Shaped (Error.PlacedIn source) := by
  refine ensures_mapError (E := Error.Within source) ?_ fun e he => he.located ht.stop
  exact feed_ensures (fun cause _ => Error.within_of source cause) rounding p t.kind _ _ hp
    fun o ho => Token.value_within ht ho h

/-- The end of the last of some tokens that stand in a text. -/
theorem boundary_lastStop {cursor : Nat} {ts : List (Token α)} (textOf : α → String)
    (hcursor : Boundary source.toList cursor)
    (hts : ∀ t ∈ ts, (t.map textOf).Stands source.toList) :
    Boundary source.toList (lastStop cursor ts) := by
  induction ts generalizing cursor with
  | nil => exact hcursor
  | cons t ts ih =>
      exact ih (hts t List.mem_cons_self).stop fun u hu => hts u (List.mem_cons_of_mem _ hu)

/-- Every error of a run is placed, if the tokens stand in the text and the
    errors of the expressions inside them are within their texts. -/
theorem run_placed {reading : Reading α}
    (hts : ∀ t ∈ reading.tokens, (t.map nested.text).Stands source.toList)
    (hending : ∀ fault, reading.ending = .fault fault → Boundary source.toList fault.pos)
    (h : ∀ t ∈ reading.tokens, ∀ a ∈ t.nested,
      (nested.eval a).Ensures (fun _ => True) (Error.Within (nested.text a))) :
    (run nested rounding env source reading).Ensures (fun _ => True) (Error.PlacedIn source) := by
  unfold run
  rw [runFrom_eq]
  have hafter := after_invariant nested rounding env source start reading.tokens shaped_start
    fun t ht q hq => step_placed hq (hts t ht) (h t ht)
  refine ensures_bind hafter fun q hq => ?_
  -- At the end of the tokens, errors are placed at the end of the last one.
  have hlast := boundary_lastStop nested.text (tailAt_zero _).boundary hts
  refine ensures_mapError (E := Error.Within source) ?_ fun e he => he.located hlast
  unfold stop
  split
  next fault hfault => exact ensures_throw _ (Error.within_ofFault (hending fault hfault))
  next =>
    exact finish_ensures (fun cause _ => Error.within_of source cause) rounding _ _ _ _
      (hq.atEnd _)

end Pass

namespace Interpret

variable (config : Config) (env : Env)

/-- A run over the tokens of a text places its errors in it, if the texts inside
    it do not let theirs get away. -/
theorem run_placed {text : String}
    (h : ∀ s : String, s.length < text.length →
      (nested config env s).Ensures (fun _ => True) (Error.Within s)) :
    (Pass.run (evaluator config env) config.rounding env text (Token.read text)).Ensures
      (fun _ => True) (Error.PlacedIn text) := by
  refine Pass.run_placed (fun t ht => ?_) (fun fault => Token.boundary_of_read) fun t ht s hs => ?_
  · rw [evaluator, Token.map_id]
    exact Token.stands_of_mem_read ht
  · exact h s (Token.length_lt_of_mem_read ht s hs)

/-- The errors of an expression inside another are within its text. -/
theorem nested_within (text : String) :
    (nested config env text).Ensures (fun _ => True) (Error.Within text) := by
  rw [nested_eq]
  split
  · exact ensures_fail _ (Error.within_of text _)
  · -- What the pass placed in this text is moved outward by the one around it.
    have hrun := run_placed config env fun s (_ : s.length < text.length) => nested_within s
    exact ensures_map (hrun.mono_error fun _ he => he.within)
termination_by text.length

/-- Every error of evaluating a text is placed in it. -/
theorem whole_placed (text : String) :
    (whole config env text).Ensures (fun _ => True) (Error.PlacedIn text) := by
  rw [whole_eq]
  exact ensures_map (run_placed config env fun s _ => nested_within config env s)

end Interpret

namespace Program

section Compile

variable {textOf : α → String} {compile : α → Except Error Program} {source : String}

/-- The error of an expression inside another is placed where the expression was
    found. -/
theorem compileAt_placed {offset : Nat} {a : α} {after : List Char} {e : Error}
    (hfound : TailAt source.toList offset ((textOf a).toList ++ after))
    (h : ∀ e, compile a = .error e → e.Within (textOf a))
    (he : compileAt source compile offset a = .error e) : e.PlacedIn source := by
  unfold compileAt at he
  cases hc : compile a with
  | ok p =>
      rw [hc] at he
      cases he
  | error e' =>
      rw [hc] at he
      cases he
      exact ((h e' hc).lifted hfound).located hfound.boundary

theorem compileElements_placed {start : Nat} {elements : List α} {e : Error}
    (hholds : Holds source.toList start ((elements.map textOf).map String.toList))
    (h : ∀ a ∈ elements, ∀ e, compile a = .error e → e.Within (textOf a))
    (he : compileElements source textOf compile start elements = .error e) :
    e.PlacedIn source := by
  induction elements generalizing start with
  | nil => cases he
  | cons a as ih =>
      rcases hholds.find with ⟨after, hfound, hrest⟩
      rw [width_toList] at hrest
      rcases eq_error_of_bind_eq_error he with hfirst | ⟨p, _, he⟩
      · exact compileAt_placed hfound (h a List.mem_cons_self) hfirst
      · rcases eq_error_of_bind_eq_error he with hlater | ⟨ps, _, he⟩
        · exact ih hrest (fun b hb => h b (List.mem_cons_of_mem _ hb)) hlater
        · cases he

theorem compileOperand_placed {inside : Nat} {o : Operand α} {e : Error}
    (hholds : Holds source.toList inside ((o.nested.map textOf).map String.toList))
    (h : ∀ a ∈ o.nested, ∀ e, compile a = .error e → e.Within (textOf a))
    (he : compileOperand source textOf compile inside o = .error e) : e.PlacedIn source := by
  -- Only a group or a list compiles a text inside, and it is found where it was taken from.
  cases o with
  | literal value => cases he
  | identifier path => cases he
  | self => cases he
  | group inner =>
      rcases hholds.find with ⟨after, hfound, _⟩
      rcases eq_error_of_bind_eq_error he with he | ⟨p, _, he⟩
      · exact compileAt_placed hfound (h inner (List.mem_singleton_self _)) he
      · cases he
  | list elements =>
      rcases eq_error_of_bind_eq_error he with he | ⟨ps, _, he⟩
      · exact compileElements_placed hholds h he
      · cases he

/-- The error of compiling a token is placed in the text that the token stands
    in. -/
theorem compileToken_placed {t : Token α} {e : Error}
    (ht : (t.map textOf).Stands source.toList)
    (h : ∀ a ∈ t.nested, ∀ e, compile a = .error e → e.Within (textOf a))
    (he : compileToken source textOf compile t = .error e) : e.PlacedIn source := by
  rcases t with ⟨kind, span, negated⟩
  cases kind with
  | operator op => cases he
  | assign name => cases he
  | operand o =>
      rcases eq_error_of_bind_eq_error he with he | ⟨o', _, he⟩
      · exact compileOperand_placed (ht.holds rfl) h he
      · cases he

/-- Compiling some tokens fails because compiling one of them does. -/
theorem compileTokens_eq_error {ts : List (Token α)} {e : Error}
    (h : ts.mapM (compileToken source textOf compile) = .error e) :
    ∃ t ∈ ts, compileToken source textOf compile t = .error e := by
  induction ts with
  | nil => cases h
  | cons t ts ih =>
      rw [List.mapM_cons] at h
      rcases eq_error_of_bind_eq_error h with h | ⟨t', _, h⟩
      · exact ⟨t, List.mem_cons_self, h⟩
      · rcases eq_error_of_bind_eq_error h with h | ⟨ts', _, h⟩
        · rcases ih h with ⟨u, hu, he⟩
          exact ⟨u, List.mem_cons_of_mem _ hu, he⟩
        · cases h

theorem ofTokens_placed {ending : Reading.End} {nodes : List (Token Program)} {e : Error}
    (hending : ∀ fault, ending = .fault fault → Boundary source.toList fault.pos)
    (he : ofTokens source ending nodes = .error e) : e.PlacedIn source := by
  unfold ofTokens at he
  split at he
  next fault =>
    cases he
    have hfault := hending fault rfl
    exact (Error.within_ofFault hfault).located hfault
  next =>
    split at he
    · cases he
      exact (Error.within_of source _).located (tailAt_zero _).boundary
    · cases he

end Compile

/-- Every error of compiling a text is placed in it. -/
theorem compile_placed {text : String} {e : Error} (h : compile text = .error e) :
    e.PlacedIn text := by
  rw [compile_eq] at h
  rcases eq_error_of_bind_eq_error h with h | ⟨nodes, _, h⟩
  · rcases compileTokens_eq_error h with ⟨t, ht, he⟩
    -- The texts inside a token are shorter, so that the recursion comes to an end.
    have hnested : ∀ s ∈ t.nested, ∀ e, compile s = .error e → e.Within s := fun s hs e he' =>
      have := Token.length_lt_of_mem_read ht s hs
      (compile_placed he').within
    have hstands : (t.map id).Stands text.toList := by
      rw [Token.map_id]
      exact Token.stands_of_mem_read ht
    exact compileToken_placed hstands hnested he
  · exact ofTokens_placed (fun fault => Token.boundary_of_read) h
termination_by text.length

variable (config : Config) (env : Env)

/-- A run over the tokens of a compiled text places its errors in the text. -/
theorem CompiledFrom.run_placed {text : String} {p : Program} (hp : CompiledFrom text p)
    (h : ∀ q, sizeOf q < sizeOf p → compile q.source = .ok q →
      (runNested config env q).Ensures (fun _ => True) (Error.Within q.source)) :
    (Pass.run (evaluator config env) config.rounding env p.source p.toReading).Ensures
      (fun _ => True) (Error.PlacedIn text) := by
  rw [hp.source_eq]
  refine Pass.run_placed (fun t ht => Token.stands_of_mem_read ?_) nofun fun t ht q hq => ?_
  · rw [← hp.nodes_eq]
    exact List.mem_map_of_mem ht
  · exact h q (sizeOf_lt_of_mem_nodes ht q hq) (hp.nested t ht q hq)

/-- The errors of a program inside another are within its text. -/
theorem runNested_within (p : Program) (h : compile p.source = .ok p) :
    (runNested config env p).Ensures (fun _ => True) (Error.Within p.source) := by
  rw [runNested_eq]
  have hrun := (compiledFrom_compile h).run_placed config env
    fun q (_ : sizeOf q < sizeOf p) hq => runNested_within q hq
  exact ensures_map (hrun.mono_error fun _ he => he.within)
termination_by sizeOf p

/-- Every error of running a compiled text is placed in it. -/
theorem run_placed {text : String} {p : Program} (h : compile text = .ok p) :
    (p.run config env).Ensures (fun _ => True) (Error.PlacedIn text) := by
  rw [run_eq]
  exact ensures_map ((compiledFrom_compile h).run_placed config env
    fun q _ hq => runNested_within config env q hq)

end Program

namespace Cache

/-- A cache that holds the trimmed forms of its texts. -/
def Faithful (c : Cache) : Prop :=
  ∀ entry ∈ c.entries, entry.2 = trimmed entry.1

theorem faithful_ofCapacity (capacity : Nat) : (ofCapacity capacity).Faithful :=
  nofun

/-- A faithful cache answers with the trimmed form of the text it is asked for. -/
theorem Faithful.buffer {c : Cache} (h : c.Faithful) (text : String) :
    (c.buffer text).1 = trimmed text ∧ (c.buffer text).2.Faithful := by
  unfold Cache.buffer
  split
  next form hlookup =>
    rcases List.lookup_eq_some_iff.mp hlookup with ⟨newer, older, hentries, _⟩
    -- A text that is known moves to the front.
    have hmem : (text, form) ∈ c.entries := by
      rw [hentries]
      exact List.mem_append_right _ List.mem_cons_self
    have hform : form = trimmed text := h _ hmem
    refine ⟨hform, fun entry hentry => ?_⟩
    rcases List.mem_cons.mp hentry with rfl | hentry
    · exact hform
    · exact h entry (List.mem_filter.mp hentry).1
  next =>
    -- A new text may drive another one out.
    refine ⟨rfl, fun entry hentry => ?_⟩
    rcases List.mem_cons.mp (List.mem_of_mem_take hentry) with rfl | hentry
    · rfl
    · exact h entry hentry

end Cache

namespace Engine

/-- The engines that come from a configuration by evaluating and compiling, in
    any order. A cache may be cleared in between, and may be shared with engines
    of other configurations. -/
inductive Reached : Engine → Prop
  | fresh (config : Config) : Reached (ofConfig config)
  | evaluated {engine : Engine} (env : Env) (text : String) : Reached engine →
      Reached (engine.eval env text).1
  | compiled {engine : Engine} (text : String) : Reached engine →
      Reached (engine.compile text).1
  | cleared {engine : Engine} : Reached engine →
      Reached { engine with cache := engine.cache.clear }
  | shared {engine : Engine} (config : Config) : Reached engine →
      Reached { engine with config := config }

/-- The cache of an engine is faithful, however it was used. -/
theorem Reached.faithful {engine : Engine} (h : engine.Reached) : engine.cache.Faithful := by
  induction h with
  | fresh config =>
      unfold ofConfig freshCache
      split <;> exact Cache.faithful_ofCapacity _
  | @evaluated engine env text _ ih =>
      have hcache : (engine.eval env text).1.cache = (engine.cache.buffer text).2 := by
        unfold eval
        simp only
        split <;> rfl
      rw [hcache]
      exact (ih.buffer text).2
  | compiled text _ ih => exact (ih.buffer text).2
  | cleared _ _ => exact nofun
  | shared _ _ ih => exact ih

/-- What an engine evaluates if its cache is faithful. -/
theorem eval_of_faithful {engine : Engine} (h : engine.cache.Faithful) (env : Env)
    (text : String) :
    engine.eval env text =
      (⟨engine.config, (engine.cache.buffer text).2⟩,
        if allBlank (Cache.trimmed text).toList then
          throw ((Error.of .nothingToDo).located text 0)
        else Interpret.whole engine.config env (Cache.trimmed text)) := by
  rw [← (h.buffer text).1]
  unfold eval buffer
  simp only
  split <;> rfl

/-- What an engine compiles if its cache is faithful. -/
theorem compile_of_faithful {engine : Engine} (h : engine.cache.Faithful) (text : String) :
    engine.compile text =
      (⟨engine.config, (engine.cache.buffer text).2⟩, Program.compile (Cache.trimmed text)) := by
  rw [← (h.buffer text).1]
  rfl

/-- The text that an evaluation is about: the trimmed form, or the text as it was
    given if nothing is left of it. -/
def subject (text : String) : String :=
  if allBlank (Cache.trimmed text).toList then text else Cache.trimmed text

/-- Every error that an engine reports has a place: the whole text that was
    evaluated or compiled, without the blanks at its end unless there is nothing
    else, and an offset that is at most its length in bytes and cuts no character
    in two. This holds of evaluating a text, of compiling it, of running the
    program that comes from it, and of running any program that was compiled,
    however deep the expression in which the error happened stands inside the
    text. -/
theorem placed_of_error {engine : Engine} (h : engine.Reached) :
    (∀ (text : String) (env : Env) (vs vs' : Variables) (e : Error),
      (engine.eval env text).2.outcome vs = (.error e, vs') → e.PlacedIn (subject text)) ∧
    (∀ (text : String) (e : Error),
      (engine.compile text).2 = .error e → e.PlacedIn (Cache.trimmed text)) ∧
    (∀ (text : String) (program : Program), (engine.compile text).2 = .ok program →
      ∀ (other : Engine) (env : Env) (vs vs' : Variables) (e : Error),
        (other.execute env program).outcome vs = (.error e, vs') →
          e.PlacedIn (Cache.trimmed text)) ∧
    ∀ (text : String) (program : Program), Program.compile text = .ok program →
      ∀ (env : Env) (vs vs' : Variables) (e : Error),
        (engine.execute env program).outcome vs = (.error e, vs') → e.PlacedIn text := by
  have hform (text : String) : (engine.buffer text).1 = Cache.trimmed text :=
    (h.faithful.buffer text).1
  have hcompile (text : String) :
      (engine.compile text).2 = Program.compile (Cache.trimmed text) := by
    rw [← hform]
    rfl
  refine ⟨fun text env vs vs' e he => ?_, fun text e he => ?_,
    fun text program hp other env vs vs' e he => ?_, fun text program hp env vs vs' e he => ?_⟩
  · have heval : (engine.eval env text).2 =
        if allBlank (Cache.trimmed text).toList then
          throw ((Error.of .nothingToDo).located text 0)
        else Interpret.whole engine.config env (Cache.trimmed text) := by
      rw [← hform]
      unfold eval
      simp only
      split <;> rfl
    rw [heval] at he
    unfold subject
    split at he
    next hblank =>
      -- Nothing is left of the text, and the error is at its start.
      rw [if_pos hblank]
      cases he
      exact (Error.within_of text _).located (tailAt_zero _).boundary
    next hblank =>
      rw [if_neg hblank]
      exact (Interpret.whole_placed _ env _).of_error he
  · rw [hcompile] at he
    exact Program.compile_placed he
  · rw [hcompile] at hp
    exact (Program.run_placed _ env hp).of_error he
  · exact (Program.run_placed _ env hp).of_error he

/-- In `['é', 2 -]` an element fails behind a character of two bytes, and its
    error is placed at byte 10 of 11. Compiling `(é)` fails at byte 1, inside the
    group; `2 -` compiles, and running it fails at its end. -/
theorem placed_of_error_element :
    (∃ e, ((ofConfig {}).eval ⟨.null, .null⟩ "['é', 2 -] ").2.outcome (.ofGlobals .empty) =
        (.error e, .ofGlobals .empty) ∧ e.cursor = some 10 ∧ e.PlacedIn "['é', 2 -]") ∧
    (∃ e, ((ofConfig {}).compile "(é)").2 = .error e ∧ e.cursor = some 1 ∧ e.PlacedIn "(é)") ∧
    ∃ program, ((ofConfig {}).compile "2 - ").2 = .ok program ∧
      ∃ e, ((ofConfig {}).execute ⟨.null, .null⟩ program).outcome (.ofGlobals .empty) =
        (.error e, .ofGlobals .empty) ∧ e.cursor = some 3 ∧ e.PlacedIn "2 -" := by
  have hminus : Token.read "2 -" =
      ⟨[⟨.operand (.literal (.int 2)), ⟨0, 1⟩, false⟩, ⟨.operator .sub, ⟨2, 3⟩, false⟩],
        .finished false⟩ := by
    rw [Token.read_eq 4 (by decide)]
    rfl
  have hplaced := placed_of_error (.fresh {})
  refine ⟨?_, ?_, ?_⟩
  · have hread : Token.read "['é', 2 -]" =
        ⟨[⟨.operand (.list ["'é'", "2 -"]), ⟨0, 11⟩, false⟩], .finished false⟩ := by
      rw [Token.read_eq 11 (by decide)]
      with_unfolding_all rfl
    have hfirst : Interpret.nested {} ⟨.null, .null⟩ "'é'" = pure (.str "é") := by
      rw [Interpret.nested_eq, Token.read_eq 4 (by decide)]
      with_unfolding_all rfl
    have hsecond : Interpret.nested {} ⟨.null, .null⟩ "2 -" =
        throw ⟨.illFormed (.missingAfter .sub), some "2 -", some 3⟩ := by
      rw [Interpret.nested_eq, hminus]
      with_unfolding_all rfl
    have heval : ((ofConfig {}).eval ⟨.null, .null⟩ "['é', 2 -] ").2 =
        Interpret.whole {} ⟨.null, .null⟩ "['é', 2 -]" := by
      with_unfolding_all rfl
    have hfails : ((ofConfig {}).eval ⟨.null, .null⟩ "['é', 2 -] ").2.outcome (.ofGlobals .empty) =
        (.error ⟨.illFormed (.missingAfter .sub), some "['é', 2 -]", some 10⟩,
          .ofGlobals .empty) := by
      rw [heval, Interpret.whole_eq, hread]
      simp only [Pass.run, Pass.runFrom, Pass.feed, Pass.start, Pass.feedStatement, Pass.operand,
        Token.value, Operand.value, Operand.elementValues, Interpret.evaluator, id, hfirst,
        hsecond]
      with_unfolding_all rfl
    have hsubject : subject "['é', 2 -] " = "['é', 2 -]" := by with_unfolding_all rfl
    have he := hplaced.1 _ _ _ _ _ hfails
    rw [hsubject] at he
    exact ⟨_, hfails, rfl, he⟩
  · have hread : Token.read "(é)" =
        ⟨[⟨.operand (.group "é"), ⟨0, 4⟩, false⟩], .finished false⟩ := by
      rw [Token.read_eq 4 (by decide)]
      with_unfolding_all rfl
    have hgroup : Program.compile "é" =
        .error ⟨.illFormed (.fault (.unexpectedChar 0 "é")), some "é", some 0⟩ := by
      rw [Program.compile_eq, Token.read_eq 2 (by decide)]
      with_unfolding_all rfl
    have hcompile : ((ofConfig {}).compile "(é)").2 = Program.compile "(é)" := by
      with_unfolding_all rfl
    have hfails : ((ofConfig {}).compile "(é)").2 =
        .error ⟨.illFormed (.fault (.unexpectedChar 0 "é")), some "(é)", some 1⟩ := by
      rw [hcompile, Program.compile_eq, hread]
      simp only [List.mapM_cons, Program.compileToken, Program.compileOperand, Program.compileAt,
        id, hgroup]
      with_unfolding_all rfl
    have htrimmed : Cache.trimmed "(é)" = "(é)" := by with_unfolding_all rfl
    have he := hplaced.2.1 _ _ hfails
    rw [htrimmed] at he
    exact ⟨_, hfails, rfl, he⟩
  · have hcompile : ((ofConfig {}).compile "2 - ").2 = Program.compile "2 -" := by
      with_unfolding_all rfl
    have hprogram : ((ofConfig {}).compile "2 - ").2 = .ok ⟨"2 -",
        [⟨.operand (.literal (.int 2)), ⟨0, 1⟩, false⟩, ⟨.operator .sub, ⟨2, 3⟩, false⟩]⟩ := by
      rw [hcompile, Program.compile_eq, hminus]
      rfl
    have hfails : ((ofConfig {}).execute ⟨.null, .null⟩ ⟨"2 -",
        [⟨.operand (.literal (.int 2)), ⟨0, 1⟩, false⟩,
          ⟨.operator .sub, ⟨2, 3⟩, false⟩]⟩).outcome (.ofGlobals .empty) =
        (.error ⟨.illFormed (.missingAfter .sub), some "2 -", some 3⟩, .ofGlobals .empty) := by
      unfold execute
      rw [Program.run_eq]
      with_unfolding_all rfl
    have htrimmed : Cache.trimmed "2 - " = "2 -" := by with_unfolding_all rfl
    have he := hplaced.2.2.1 _ _ hprogram _ _ _ _ _ hfails
    rw [htrimmed] at he
    exact ⟨_, hprogram, _, hfails, rfl, he⟩

end Engine

end Reckon
