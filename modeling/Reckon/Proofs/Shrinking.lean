import Mathlib.Logic.Function.Iterate
import Reckon.Proofs.Compile
import Reckon.Proofs.Nesting

/-!
# Texts inside a Token Are Shorter

The texts inside a token stand between two brackets, which are part of the token and not of
the texts. So each of them is a stretch of the text that the token was read from, it begins
behind the first byte of the token and ends before its last one, and it is shorter than the
token by two bytes at least (`Token.encloses_of_mem_read`).

Compiling goes from a text to the texts inside it, and so does evaluating. One level of such a
recursion can be said on its own, given what becomes of the texts inside
(`Program.compileWith`, `Interpret.nestedWith`, `Program.nestedWith`), and any number of levels
by doing so again and again. If the levels are more than half the bytes of the text, all texts
are reached, and it makes no difference what the innermost level is given
(`iterate_eq_of_shrinks`). This is how deep the recursions go.

## Main definitions

* `Token.Encloses`: A text that stands inside a token.
* `Program.compileWith`: One level of compiling.
* `Interpret.nestedWith`, `Interpret.wholeWith`: One level of interpreting.
* `Program.nestedWith`, `Program.wholeWith`: One level of running a program.

## Theorems

* `Token.encloses_of_mem_read`: The texts inside a token stand inside it.
* `iterate_eq_of_shrinks`: A recursion on shorter texts, level by level.
* `Program.iterate_compileWith`: How deep compiling goes.
* `Interpret.iterate_wholeWith`, `Program.iterate_wholeWith`: How deep evaluating goes.
-/

namespace Reckon

open Text

variable {α β : Type}

section Inside

/-- Texts in order are stretches of the text that they stand in. -/
theorem Text.InOrder.isInfix {cs : List Char} {parts : List (List Char)} (h : InOrder cs parts) :
    ∀ part ∈ parts, part <:+: cs := by
  induction parts generalizing cs with
  | nil => exact List.forall_mem_nil _
  | cons part parts ih =>
      rcases h with ⟨before, after, rfl, h⟩
      refine List.forall_mem_cons.mpr ⟨⟨before, after, List.append_assoc _ _ _⟩, fun q hq => ?_⟩
      have hsuffix : after <:+ before ++ (part ++ after) := by
        rw [← List.append_assoc]
        exact List.suffix_append _ _
      exact (ih h q hq).trans hsuffix.isInfix

/-- The texts inside a bracket are stretches of what stands between bracket and closer. -/
theorem Bracketed.isInfix_of_mem_texts (b : Bracketed) : ∀ s ∈ b.texts, s <:+: b.inside := by
  unfold texts
  split
  · exact (inOrder_trim b.inside).isInfix
  · exact (inOrder_elements b.inside).isInfix

/-- The text `s` stands in `source` inside the token `t`, not reaching its first byte nor its
    last one. -/
structure Token.Encloses (source : String) (t : Token α) (s : String) : Prop where
  stands : ∃ before after, source = before ++ s ++ after ∧
    t.span.start < before.utf8ByteSize ∧ before.utf8ByteSize + s.utf8ByteSize < t.span.stop
  /-- The brackets at least are not part of it. -/
  shorter : s.utf8ByteSize + 2 ≤ t.span.size
  stop_le : t.span.stop ≤ source.utf8ByteSize

theorem Token.Encloses.lt_size {source s : String} {t : Token α} (h : t.Encloses source s) :
    s.utf8ByteSize + 2 ≤ source.utf8ByteSize := by
  have hshorter := h.shorter
  have hstop := h.stop_le
  unfold Span.size at hshorter
  omega

theorem Text.width_ofList (cs : List Char) : (String.ofList cs).utf8ByteSize = width cs := by
  rw [← width_toList, String.toList_ofList]

/-- What is cut out of a bracket stands inside the token. -/
theorem Bracketed.Around.encloses {b : Bracketed} {source : String} {t : Token String}
    (h : b.Around source.toList t) {s : List Char} (hs : s <:+: b.inside) :
    t.Encloses source (String.ofList s) := by
  rcases hs with ⟨lead, trail, hinside⟩
  rcases h.stands with ⟨front, hsource, hstart⟩
  have hopener : b.opener.utf8Size = 1 := by
    unfold opener
    split <;> rfl
  have hcloser : b.closer.utf8Size = 1 := by
    unfold closer
    split <;> rfl
  -- Openers and closers are one byte each, so the place of the inside and its size are
  -- sums of widths; what is enclosed is shorter by the two of them at least.
  have hstop := h.stop_eq
  have hwidth := congrArg width hinside
  have hsize := congrArg width hsource
  rw [width_append, width_append] at hwidth
  rw [width_toList, text] at hsize
  simp only [width_append, width_cons, hopener, hcloser] at hsize
  refine ⟨⟨String.ofList (front ++ b.marks ++ b.opener :: lead),
    String.ofList (trail ++ b.closer :: b.after), ?_, ?_, ?_⟩, ?_, ?_⟩
  · rw [← String.ofList_append, ← String.ofList_append, ← String.toList_inj, String.toList_ofList,
      hsource, text, ← hinside]
    simp only [List.append_assoc, List.cons_append]
  · rw [width_ofList, width_append, width_append, width_cons, hopener]
    omega
  · rw [width_ofList, width_ofList, width_append, width_append, width_cons, hopener]
    omega
  · rw [width_ofList, Span.size]
    omega
  · omega

/-- The texts inside a token stand inside it. -/
theorem Token.encloses_of_mem_read {text : String} {t : Token String}
    (ht : t ∈ (read text).tokens) : ∀ s ∈ t.nested, t.Encloses text s := by
  intro s hs
  rcases exists_bracketed ht (List.ne_nil_of_mem hs) with ⟨b, hb⟩
  rw [Token.nested, hb.kind_eq, Kind.nested, b.nested_operand] at hs
  rcases List.mem_map.mp hs with ⟨part, hpart, rfl⟩
  exact hb.encloses (b.isInfix_of_mem_texts part hpart)

end Inside

section Levels

/-- A recursion that goes from `a` to things smaller by two or more is at its end after more
    levels than half of `a`. What the innermost level is given makes no difference. -/
theorem iterate_eq_of_shrinks {F : (α → β) → α → β} {f : α → β} (P : α → Prop) (size : α → Nat)
    (h : ∀ g a, P a → (∀ b, P b → size b + 2 ≤ size a → g b = f b) → F g a = f a)
    (bottom : α → β) {n : Nat} {a : α} (ha : P a) (hn : size a < 2 * n) :
    F^[n] bottom a = f a := by
  induction n generalizing a with
  | zero => omega
  | succ n ih =>
      rw [Function.iterate_succ_apply']
      exact h _ a ha fun b hb hlt => ih hb (by omega)

end Levels

namespace Program

section Congr

variable (source : String) (textOf : α → String) {compile compile' : α → Except Error Program}

theorem compileElements_congr {elements : List α} (h : ∀ a ∈ elements, compile a = compile' a)
    (start : Nat) :
    compileElements source textOf compile start elements =
      compileElements source textOf compile' start elements := by
  induction elements generalizing start with
  | nil => rfl
  | cons a as ih =>
      have has := ih fun b hb => h b (List.mem_cons_of_mem a hb)
      simp only [compileElements, compileAt, h a List.mem_cons_self, has]

/-- A token is compiled in the same way if the expressions inside it are. -/
theorem compileToken_congr {t : Token α} (h : ∀ a ∈ t.nested, compile a = compile' a) :
    compileToken source textOf compile t = compileToken source textOf compile' t := by
  rcases t with ⟨kind, span, negated⟩
  rcases kind with op | (v | path | _ | a | elements) | name
  case operand.group =>
    simp only [compileToken, compileOperand, compileAt, h a (List.mem_singleton_self a)]
  case operand.list =>
    have helements := compileElements_congr source textOf h (span.start + 1)
    simp only [compileToken, compileOperand, Token.nested, Token.Kind.nested, Operand.nested]
      at helements ⊢
    rw [helements]
  all_goals rfl

theorem compileTokens_congr {ts : List (Token α)}
    (h : ∀ t ∈ ts, ∀ a ∈ t.nested, compile a = compile' a) :
    ts.mapM (compileToken source textOf compile) =
      ts.mapM (compileToken source textOf compile') := by
  induction ts with
  | nil => rfl
  | cons t ts ih =>
      rw [List.mapM_cons, List.mapM_cons,
        compileToken_congr source textOf (h t List.mem_cons_self),
        ih fun u hu => h u (List.mem_cons_of_mem t hu)]

end Congr

/-- The program of a text, given the programs of the texts inside it. -/
def compileWith (compile : String → Except Error Program) (text : String) :
    Except Error Program :=
  (Token.read text).tokens.mapM (compileToken text id compile) >>=
    ofTokens text (Token.read text).ending

/-- Compiling goes down no more levels than half the bytes of a text, and one. -/
theorem iterate_compileWith (bottom : String → Except Error Program) (text : String) :
    compileWith^[text.utf8ByteSize / 2 + 1] bottom text = compile text := by
  refine iterate_eq_of_shrinks (fun _ => True) String.utf8ByteSize (fun g s _ hg => ?_) bottom
    trivial (by omega)
  have htokens : (Token.read s).tokens.mapM (compileToken s id g) =
      (Token.read s).tokens.mapM (compileToken s id compile) :=
    compileTokens_congr s id fun _ ht inner hinner =>
      hg inner trivial (Token.encloses_of_mem_read ht inner hinner).lt_size
  rw [compile_eq, compileWith, htokens]

end Program

/-- A run is the same with two evaluators that agree on the expressions inside its tokens. -/
theorem Pass.run_congr (nested nested' : Nested α) (rounding : Rounding) (env : Env)
    (source : String) {reading : Reading α} (htext : nested.text = nested'.text)
    (h : ∀ t ∈ reading.tokens, ∀ a ∈ t.nested, nested.eval a = nested'.eval a) :
    run nested rounding env source reading = run nested' rounding env source reading := by
  unfold run
  rw [runFrom_eq, runFrom_eq]
  refine Eval.ext_outcome fun vs => Eval.outcome_bind_congr _ _ _ _ vs ?_ fun _ _ _ => rfl
  refine after_congr nested nested' rounding env source start reading.tokens vs htext ?_
  intro a vs' ha
  rcases ha.mem with ⟨t, ht, hat⟩
  rw [h t ht a hat]

namespace Interpret

variable (config : Config) (env : Env)

/-- The pass over a text, given the values of the texts inside it. -/
def passWith (eval : String → Eval Value) (text : String) : Eval Value :=
  Pass.run ⟨id, eval⟩ config.rounding env text (Token.read text)

/-- The value of an expression inside another, given the values of the texts inside it. -/
def nestedWith (eval : String → Eval Value) (text : String) : Eval Value :=
  if Text.allBlank text.toList then Eval.fail .nothingToDo
  else config.coerceNested <$> passWith config env eval text

/-- The value of a whole expression, given the values of the texts inside it. -/
def wholeWith (eval : String → Eval Value) (text : String) : Eval Value :=
  config.coerceWhole <$> passWith config env eval text

theorem passWith_congr {eval eval' : String → Eval Value} {text : String}
    (h : ∀ s, s.utf8ByteSize + 2 ≤ text.utf8ByteSize → eval s = eval' s) :
    passWith config env eval text = passWith config env eval' text := by
  refine Pass.run_congr ⟨id, eval⟩ ⟨id, eval'⟩ config.rounding env text rfl fun _ ht s hs => ?_
  exact h s (Token.encloses_of_mem_read ht s hs).lt_size

theorem iterate_nestedWith (bottom : String → Eval Value) {n : Nat} {text : String}
    (h : text.utf8ByteSize < 2 * n) :
    (nestedWith config env)^[n] bottom text = nested config env text := by
  refine iterate_eq_of_shrinks (fun _ => True) String.utf8ByteSize (fun g s _ hg => ?_) bottom
    trivial h
  rw [nested_eq, nestedWith, passWith_congr config env fun t ht => hg t trivial ht]
  rfl

/-- Interpreting goes down no more levels than half the bytes of a text, and one. -/
theorem iterate_wholeWith (bottom : String → Eval Value) (text : String) :
    wholeWith config env ((nestedWith config env)^[text.utf8ByteSize / 2] bottom) text =
      whole config env text := by
  rw [whole_eq, wholeWith, passWith_congr config env fun s hs =>
    iterate_nestedWith config env bottom (n := text.utf8ByteSize / 2) (by omega)]
  rfl

end Interpret

namespace Program

variable (config : Config) (env : Env)

/-- The value of a program inside another, given the values of the programs inside it. -/
def nestedWith (eval : Program → Eval Value) (p : Program) : Eval Value :=
  config.coerceNested <$> Pass.run ⟨source, eval⟩ config.rounding env p.source p.toReading

/-- The value of a whole program, given the values of the programs inside it. -/
def wholeWith (eval : Program → Eval Value) (p : Program) : Eval Value :=
  config.coerceWhole <$> Pass.run ⟨source, eval⟩ config.rounding env p.source p.toReading

/-- The programs inside a program have texts inside its tokens. -/
theorem CompiledFrom.lt_size {text : String} {p : Program} (h : CompiledFrom text p)
    {t : Token Program} (ht : t ∈ p.nodes) :
    ∀ q ∈ t.nested, q.source.utf8ByteSize + 2 ≤ text.utf8ByteSize := by
  intro q hq
  have hread : t.map source ∈ (Token.read text).tokens := by
    rw [← h.nodes_eq]
    exact List.mem_map_of_mem ht
  refine (Token.encloses_of_mem_read hread q.source ?_).lt_size
  rw [Token.nested_map]
  exact List.mem_map_of_mem hq

theorem iterate_nestedWith (bottom : Program → Eval Value) {n : Nat} {p : Program}
    (hp : compile p.source = .ok p) (h : p.source.utf8ByteSize < 2 * n) :
    (nestedWith config env)^[n] bottom p = runNested config env p := by
  refine iterate_eq_of_shrinks (fun p => compile p.source = .ok p) (fun p => p.source.utf8ByteSize)
    (fun g p hp hg => ?_) bottom hp h
  have hfrom := compiledFrom_compile hp
  rw [runNested_eq, nestedWith]
  congr 1
  refine Pass.run_congr ⟨source, g⟩ (evaluator config env) config.rounding env p.source rfl ?_
  exact fun t ht q hq => hg q (hfrom.nested t ht q hq) (hfrom.lt_size ht q hq)

/-- Running a program goes down no more levels than half the bytes of its text, and one. -/
theorem iterate_wholeWith (bottom : Program → Eval Value) {text : String} {p : Program}
    (hp : compile text = .ok p) :
    wholeWith config env ((nestedWith config env)^[text.utf8ByteSize / 2] bottom) p =
      run config env p := by
  have hfrom := compiledFrom_compile hp
  rw [run_eq, wholeWith]
  congr 1
  refine Pass.run_congr ⟨source, _⟩ (evaluator config env) config.rounding env p.source rfl ?_
  intro t ht q hq
  have hlt := hfrom.lt_size ht q hq
  exact iterate_nestedWith config env bottom (hfrom.nested t ht q hq) (by omega)

end Program

end Reckon
