import Reckon.Proofs.Exchange
import Reckon.Proofs.Reading

/-!
# What Compiling Yields

A program that was compiled is its text once more: the tokens are those of the
text, in their places, and only the expressions inside them were exchanged for
programs, each compiled from the text that stood there. This holds at every
depth, so one level is all that has to be said (`Program.CompiledFrom`).

Compiling succeeds only where the reading of the text comes to its end and has
a token. A blank text has none, although a blank character that may not stand
between tokens is a fault rather than nothing at all.

## Main definitions

* `Program.CompiledFrom`: A program whose tokens are those of a text.

## Theorems

* `Program.compile_eq`: Compiling, token by token.
* `Program.compiledFrom_compile`: What compiling yields.
* `Program.CompiledFrom.not_allBlank`: A text that compiles is not blank.
-/

namespace Reckon

variable {α : Type}

/-- A sequence of results that succeeds, taken apart. -/
theorem exists_of_bind_eq_ok {ε β : Type} {r : Except ε α} {f : α → Except ε β} {b : β}
    (h : (r >>= f) = .ok b) : ∃ a, r = .ok a ∧ f a = .ok b := by
  cases r with
  | error e => cases h
  | ok a => exact ⟨a, rfl, h⟩

/-- A sequence of results that fails, taken apart. -/
theorem eq_error_of_bind_eq_error {ε β : Type} {r : Except ε α} {f : α → Except ε β} {e : ε}
    (h : (r >>= f) = .error e) : r = .error e ∨ ∃ a, r = .ok a ∧ f a = .error e := by
  cases r with
  | error e' =>
      cases h
      exact Or.inl rfl
  | ok a => exact Or.inr ⟨a, rfl, h⟩

namespace Program

section

variable {source : String} {textOf : α → String} {compile : α → Except Error Program}

/-- Moving the errors of a compilation leaves its programs alone. -/
theorem eq_ok_of_compileAt_eq_ok {offset : Nat} {a : α} {p : Program}
    (h : compileAt source compile offset a = .ok p) : compile a = .ok p := by
  unfold compileAt at h
  cases hc : compile a with
  | error e =>
      rw [hc] at h
      cases h
  | ok q =>
      rw [hc] at h
      cases h
      rfl

variable (hsource : ∀ a p, compile a = .ok p → p.source = textOf a)

include hsource

theorem compileElements_eq_ok {start : Nat} {elements : List α} {ps : List Program}
    (h : compileElements source textOf compile start elements = .ok ps) :
    ps.map Program.source = elements.map textOf ∧ ∀ q ∈ ps, ∃ a ∈ elements, compile a = .ok q := by
  -- Compiling goes from left to right, and each place depends on the element before.
  induction elements generalizing start ps with
  | nil =>
      cases h
      exact ⟨rfl, nofun⟩
  | cons a as ih =>
      rcases exists_of_bind_eq_ok h with ⟨p, hp, h⟩
      rcases exists_of_bind_eq_ok h with ⟨ps', hps, h⟩
      cases h
      have ha := eq_ok_of_compileAt_eq_ok hp
      rcases ih hps with ⟨htext, hmem⟩
      refine ⟨?_, fun q hq => ?_⟩
      · rw [List.map_cons, List.map_cons, hsource a p ha, htext]
      · rcases List.mem_cons.mp hq with rfl | hq
        · exact ⟨a, List.mem_cons_self, ha⟩
        · rcases hmem q hq with ⟨b, hb, hbq⟩
          exact ⟨b, List.mem_cons_of_mem _ hb, hbq⟩

theorem compileOperand_eq_ok {inside : Nat} {o : Operand α} {o' : Operand Program}
    (h : compileOperand source textOf compile inside o = .ok o') :
    o'.map Program.source = o.map textOf ∧
      ∀ q ∈ o'.nested, ∃ a ∈ o.nested, compile a = .ok q := by
  -- Nothing is compiled but the text of a group and those of a list.
  cases o with
  | literal v =>
      cases h
      exact ⟨rfl, nofun⟩
  | identifier path =>
      cases h
      exact ⟨rfl, nofun⟩
  | self =>
      cases h
      exact ⟨rfl, nofun⟩
  | group a =>
      rcases exists_of_bind_eq_ok h with ⟨p, hp, h⟩
      cases h
      have ha := eq_ok_of_compileAt_eq_ok hp
      refine ⟨congrArg Operand.group (hsource a p ha), fun q hq => ?_⟩
      rw [Operand.nested, List.mem_singleton] at hq
      subst hq
      exact ⟨a, List.mem_singleton_self a, ha⟩
  | list elements =>
      rcases exists_of_bind_eq_ok h with ⟨ps, hps, h⟩
      cases h
      rcases compileElements_eq_ok hsource hps with ⟨htext, hmem⟩
      exact ⟨congrArg Operand.list htext, hmem⟩

theorem compileToken_eq_ok {t : Token α} {t' : Token Program}
    (h : compileToken source textOf compile t = .ok t') :
    t'.map Program.source = t.map textOf ∧ ∀ q ∈ t'.nested, ∃ a ∈ t.nested, compile a = .ok q := by
  rcases t with ⟨kind, span, negated⟩
  cases kind with
  | operator op =>
      cases h
      exact ⟨rfl, nofun⟩
  | assign name =>
      cases h
      exact ⟨rfl, nofun⟩
  | operand o =>
      rcases exists_of_bind_eq_ok h with ⟨o', ho, h⟩
      cases h
      rcases compileOperand_eq_ok hsource ho with ⟨htext, hmem⟩
      exact ⟨congrArg (fun k => (⟨.operand k, span, negated⟩ : Token String)) htext, hmem⟩

theorem compileTokens_eq_ok {ts : List (Token α)} {nodes : List (Token Program)}
    (h : ts.mapM (compileToken source textOf compile) = .ok nodes) :
    nodes.map (Token.map Program.source) = ts.map (Token.map textOf) ∧
      ∀ t ∈ nodes, ∀ q ∈ t.nested, ∃ a, compile a = .ok q := by
  induction ts generalizing nodes with
  | nil =>
      cases h
      exact ⟨rfl, nofun⟩
  | cons t ts ih =>
      rw [List.mapM_cons] at h
      rcases exists_of_bind_eq_ok h with ⟨t', ht, h⟩
      rcases exists_of_bind_eq_ok h with ⟨nodes', hnodes, h⟩
      cases h
      -- Programs inside this token, or inside one behind it.
      rcases compileToken_eq_ok hsource ht with ⟨htext, hmem⟩
      rcases ih hnodes with ⟨htexts, hmems⟩
      refine ⟨?_, fun u hu q hq => ?_⟩
      · rw [List.map_cons, List.map_cons, htext, htexts]
      · rcases List.mem_cons.mp hu with rfl | hu
        · rcases hmem q hq with ⟨a, _, ha⟩
          exact ⟨a, ha⟩
        · exact hmems u hu q hq

end

section

variable {β : Type} (f : β → α) (source : String) (textOf : α → String)
  (compile : α → Except Error Program)

theorem compileElements_map (start : Nat) (elements : List β) :
    compileElements source textOf compile start (elements.map f) =
      compileElements source (textOf ∘ f) (compile ∘ f) start elements := by
  induction elements generalizing start with
  | nil => rfl
  | cons b bs ih =>
      simp only [List.map_cons, compileElements, ih]
      rfl

theorem compileOperand_map (inside : Nat) (o : Operand β) :
    compileOperand source textOf compile inside (o.map f) =
      compileOperand source (textOf ∘ f) (compile ∘ f) inside o := by
  cases o with
  | list elements => simp only [Operand.map, compileOperand, compileElements_map]
  | _ => rfl

/-- Compiling a token whose expressions were exchanged. -/
theorem compileToken_map (t : Token β) :
    compileToken source textOf compile (t.map f) =
      compileToken source (textOf ∘ f) (compile ∘ f) t := by
  rcases t with ⟨kind, span, negated⟩
  cases kind with
  | operand o => simp only [Token.map, Token.Kind.map, compileToken, compileOperand_map]
  | _ => rfl

end

/-- The program of a text, token by token. -/
theorem compile_eq (text : String) :
    compile text =
      ((Token.read text).tokens.mapM (compileToken text id compile) >>=
        ofTokens text (Token.read text).ending) := by
  -- The texts inside a text come with the fact that they are shorter, which is dropped here.
  have htokens : (Interpret.read text).tokens.map (Token.map Subtype.val) =
      (Token.read text).tokens :=
    congrArg Reading.tokens (Reading.map_attach (Token.read text) _)
  have hstep : compileToken text id compile ∘ Token.map Subtype.val =
      compileToken text Subtype.val fun inner : Interpret.Within text => compile inner.1 :=
    funext fun t => compileToken_map Subtype.val text id compile t
  rw [compile, ← htokens, List.mapM_map, hstep]
  rfl

/-- A program whose tokens are those of a text, with the expressions inside
    them compiled. -/
structure CompiledFrom (text : String) (p : Program) : Prop where
  source_eq : p.source = text
  nodes_eq : p.nodes.map (Token.map source) = (Token.read text).tokens
  nodes_ne : p.nodes ≠ []
  finished : ∃ leftover, (Token.read text).ending = .finished leftover
  nested : ∀ t ∈ p.nodes, ∀ q ∈ t.nested, compile q.source = .ok q

/-- What is made of tokens is a program of their text, if they are all of it. -/
theorem ofTokens_eq_ok {source : String} {ending : Reading.End} {nodes : List (Token Program)}
    {p : Program} (h : ofTokens source ending nodes = .ok p) :
    p = ⟨source, nodes⟩ ∧ nodes ≠ [] ∧ ∃ leftover, ending = .finished leftover := by
  unfold ofTokens at h
  split at h
  · cases h
  next leftover =>
    split at h
    · cases h
    next hne =>
      cases h
      refine ⟨rfl, ?_, leftover, rfl⟩
      rintro rfl
      exact hne rfl

/-- A program knows the text that it was compiled from. -/
theorem source_of_compile {text : String} {p : Program} (h : compile text = .ok p) :
    p.source = text := by
  rw [compile_eq] at h
  rcases exists_of_bind_eq_ok h with ⟨nodes, _, h⟩
  rw [(ofTokens_eq_ok h).1]

/-- What compiling yields. -/
theorem compiledFrom_compile {text : String} {p : Program} (h : compile text = .ok p) :
    CompiledFrom text p := by
  rw [compile_eq] at h
  rcases exists_of_bind_eq_ok h with ⟨nodes, hnodes, h⟩
  rcases compileTokens_eq_ok (fun a q hq => source_of_compile hq) hnodes with ⟨htexts, hmem⟩
  rcases ofTokens_eq_ok h with ⟨rfl, hne, hend⟩
  have hid : Token.map id = (id : Token String → Token String) :=
    funext fun t => Token.map_id t
  rw [hid, List.map_id] at htexts
  refine ⟨rfl, htexts, hne, hend, fun t ht q hq => ?_⟩
  rcases hmem t ht q hq with ⟨a, ha⟩
  rw [source_of_compile ha]
  exact ha

/-- A text that compiles is not blank. -/
theorem CompiledFrom.not_allBlank {text : String} {p : Program} (h : CompiledFrom text p) :
    Text.allBlank text.toList = false := by
  cases hblank : Text.allBlank text.toList with
  | false => rfl
  | true =>
      -- A blank text has no tokens, and a program has.
      have hnodes := h.nodes_eq
      rw [Token.tokens_read_of_allBlank hblank, List.map_eq_nil_iff] at hnodes
      exact absurd hnodes h.nodes_ne

end Program

end Reckon
