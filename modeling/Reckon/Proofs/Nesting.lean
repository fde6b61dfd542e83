import Mathlib.Data.List.Forall2
import Reckon.Program
import Reckon.Proofs.Bracketed
import Reckon.Proofs.Exchange
import Reckon.Proofs.Finding

/-!
# Places of the Texts inside a Token

An error inside a group or an element is moved outward by the offset at which its
text is found, when the token is evaluated (`Token.value_eq_valueAt`) and when it
is compiled (`Program.compileToken_eq_compileTokenAt`). Where the text stands
follows from how the token is written (`Bracketed.places`).

The search for the first text begins one byte past the start of the token. That is
the inside of the bracket, unless exclamation marks come first: then the other
marks and the bracket are searched as well. So the texts are found where they
stand exactly if the first of them does not occur among these marks
(`Bracketed.Around.offsets_eq_places_iff`). A text that does is a run of
exclamation marks itself, as in `!!(!)`, or empty, as in `!()`. It holds no token
and is an error in its own right; only the place of that error is wrong.

## Main definitions

* `Bracketed.places`: Where the texts inside stand.
* `Bracketed.Hidden`: The first text inside occurs among the marks.
* `Token.offsets`: Where the texts inside are found.
* `Token.valueAt`, `Program.compileTokenAt`: Evaluating and compiling a token, the
  texts inside which have given places.

## Theorems

* `Bracketed.Around.places_stand`: The texts stand at their places.
* `Bracketed.Around.offsets_eq_places_iff`: Whether they are found there.
* `Token.tokens_read_of_marks`: A run of exclamation marks holds no token.
* `Token.value_eq_valueAt`, `Program.compileToken_eq_compileTokenAt`: What the
  offsets are used for.
* `Token.offsets_of_nested`: The tokens of a text.
-/

namespace Reckon

open Text

namespace Bracketed

section Texts

variable (b : Bracketed)

/-- The texts inside. -/
def texts : List (List Char) := if b.isGroup then [trim b.inside] else elements b.inside

/-- Where the texts inside stand, if the token starts at byte `start`. -/
def places (start : Nat) : List Nat :=
  if b.isGroup then [trimmedAt (start + width b.marks + 1) b.inside]
  else elementsAt (start + width b.marks + 1) (splitCommas b.inside)

/-- The first of the texts inside occurs behind the first exclamation mark, before
    the bracket. -/
def Hidden : Prop := b.marks ≠ [] ∧ ∃ first rest, b.texts = first :: rest ∧ first <:+: b.marks.tail

theorem nested_operand : b.operand.nested = b.texts.map String.ofList := by
  unfold operand texts
  split <;> rfl

end Texts

variable {b : Bracketed} {source : List Char} {t : Token String}

/-- What stands between the first byte of the token and the inside of the bracket. -/
def gap (b : Bracketed) : List Char := (b.marks ++ [b.opener]).tail

theorem gap_of_nil (h : b.marks = []) : b.gap = [] := by
  rw [gap, h]
  rfl

theorem gap_of_bang {more : List Char} (h : b.marks = '!' :: more) :
    b.gap = more ++ [b.opener] := by
  rw [gap, h]
  rfl

/-- The token starts with one byte, and then the gap comes. -/
theorem exists_gap (h : Marks b.marks) :
    ∃ c, b.marks ++ [b.opener] = c :: b.gap ∧ width [c] = 1 := by
  rcases h with hmarks | ⟨more, hmarks, _⟩
  · refine ⟨b.opener, by rw [gap, hmarks]; rfl, ?_⟩
    unfold opener
    split <;> rfl
  · exact ⟨'!', by rw [gap, hmarks]; rfl, rfl⟩

theorem width_gap (h : Marks b.marks) : width b.gap = width b.marks := by
  rcases exists_gap h with ⟨c, hgap, hc⟩
  have hopener : width [b.opener] = 1 := by
    unfold opener
    split <;> rfl
  have hwidth := congrArg width hgap
  rw [width_append, hopener, ← List.singleton_append, width_append, hc] at hwidth
  omega

namespace Around

/-- The search for the first text inside starts in front of the gap. -/
theorem tailAt_gap (h : b.Around source t) :
    TailAt source (t.span.start + 1) (b.gap ++ (b.inside ++ b.closer :: b.after)) := by
  rcases exists_gap h.marks with ⟨c, hgap, hc⟩
  have hstands : TailAt source t.span.start
      ([c] ++ (b.gap ++ (b.inside ++ b.closer :: b.after))) := by
    rw [← List.append_assoc, List.singleton_append, ← hgap, List.append_assoc]
    exact h.stands
  rw [← hc]
  exact hstands.skip

theorem tailAt_inside (h : b.Around source t) :
    TailAt source (t.span.start + width b.marks + 1) (b.inside ++ b.closer :: b.after) := by
  rw [← width_gap h.marks, Nat.add_right_comm]
  exact h.tailAt_gap.skip

/-- Every text inside stands at its place. -/
theorem places_stand (h : b.Around source t) :
    List.Forall₂ (fun n s => ∃ after, TailAt source n (s ++ after)) (b.places t.span.start)
      b.texts := by
  have hinside := h.tailAt_inside
  unfold places texts
  split
  · exact .cons ⟨_, tailAt_trimmedAt hinside⟩ .nil
  · exact tailAt_elementsAt hinside

/-- The texts inside are trimmed parts of the inside. -/
theorem exists_part (h : b.Around source t) {first : List Char} (hfirst : first ∈ b.texts) :
    ∃ part, first = trim part ∧ Level part ∧ (trim part).length ≤ b.inside.length := by
  unfold texts at hfirst
  split at hfirst
  · exact ⟨b.inside, List.mem_singleton.mp hfirst, h.level, length_trim_le _⟩
  · have hlen := length_le_of_mem_elements hfirst
    rcases List.mem_map.mp (List.mem_filter.mp hfirst).1 with ⟨part, hpart, rfl⟩
    exact ⟨part, rfl, h.level.of_mem_splitCommas hpart, hlen⟩

/-- Unless it occurs among the marks, no occurrence of the first text inside
    begins in the gap. -/
theorem clear_gap (h : b.Around source t) (hidden : ¬ b.Hidden) {first : List Char}
    {rest : List (List Char)} (htexts : b.texts = first :: rest) :
    Clear first b.gap (b.inside ++ b.closer :: b.after) := by
  rcases h.exists_part (htexts ▸ List.mem_cons_self) with ⟨part, rfl, hpart, hlen⟩
  -- Without marks there is no gap to search; with marks, they are all that is in it.
  rcases h.marks with hmarks | ⟨more, hmarks, hmore⟩
  · rw [gap_of_nil hmarks]
    exact clear_nil _ _
  · rw [gap_of_bang hmarks]
    refine clear_of_not_infix b.isOpener_opener (fun c hc => ?_) h.level hpart hlen
      fun hoccurs => ?_
    · rcases hmore c hc with rfl | hc
      · rfl
      · exact isPlain_of_isSpacing hc
    · refine hidden ⟨by rw [hmarks]; exact List.cons_ne_nil _ _, _, rest, htexts, ?_⟩
      rw [hmarks]
      exact hoccurs

end Around

/-- The texts inside come after the bracket. -/
theorem le_of_mem_places {start n : Nat} (h : n ∈ b.places start) :
    start + width b.marks + 1 ≤ n := by
  unfold places at h
  split at h
  · rw [List.mem_singleton.mp h]
    exact Nat.le_add_right _ _
  · exact le_of_mem_elementsAt h

end Bracketed

section Offsets

variable {α : Type}

/-- Where the texts inside a token of `source` are found: the first is looked for
    from one byte past the start of the token on. -/
def Token.offsets (source : String) (t : Token String) : List Nat :=
  Text.offsets source.toList (t.span.start + 1) (t.nested.map String.toList)

theorem Bracketed.toList_nested {b : Bracketed} {t : Token String}
    (h : t.kind = .operand b.operand) :
    t.nested.map String.toList = b.texts := by
  have hnested : t.nested = b.texts.map String.ofList := by
    rw [← b.nested_operand, Token.nested, h]
    rfl
  rw [hnested, List.map_map]
  simp only [Function.comp_def, String.toList_ofList, List.map_id']

/-- The texts inside a token are found where they stand, unless the first of them
    occurs among the exclamation marks before the bracket. -/
theorem Bracketed.Around.offsets_eq_places_iff {b : Bracketed} {source : String} {t : Token String}
    (h : b.Around source.toList t) : t.offsets source = b.places t.span.start ↔ ¬ b.Hidden := by
  rw [Token.offsets, toList_nested h.kind_eq]
  constructor
  · rintro heq ⟨hne, first, rest, htexts, hoccurs⟩
    -- The first text would be found before the bracket.
    rcases h.marks with hmarks | ⟨more, hmarks, _⟩
    · exact hne hmarks
    have hfound := h.tailAt_gap
    rw [gap_of_bang hmarks, List.append_assoc] at hfound
    rw [hmarks] at hoccurs
    have hle := offsetOf_le_of_infix hfound hoccurs
    rw [htexts, Text.offsets] at heq
    have hplace := le_of_mem_places (heq ▸ List.mem_cons_self)
    have hwidth : width b.marks = 1 + width more := by
      rw [hmarks]
      rfl
    omega
  · intro hidden
    have hfound := h.tailAt_gap
    have hstart : t.span.start + 1 + width b.gap = t.span.start + width b.marks + 1 := by
      rw [width_gap h.marks, Nat.add_right_comm]
    rcases hgroup : b.isGroup with _ | _
    · have htexts : b.texts = elements b.inside := by simp only [texts, hgroup]; rfl
      have hplaces : b.places t.span.start =
          elementsAt (t.span.start + width b.marks + 1) (splitCommas b.inside) := by
        simp only [places, hgroup]
        rfl
      rw [htexts, hplaces, ← hstart]
      exact offsets_elements hfound fun e es he => h.clear_gap hidden (htexts.trans he)
    · have htexts : b.texts = [trim b.inside] := by simp only [texts, hgroup]; rfl
      have hplaces : b.places t.span.start =
          [trimmedAt (t.span.start + width b.marks + 1) b.inside] := by
        simp only [places, hgroup]
        rfl
      rw [htexts, hplaces, ← hstart, Text.offsets, Text.offsets]
      exact congrArg (· :: []) (offsetOf_trim hfound (h.clear_gap hidden htexts))

end Offsets

section Marks

/-- An exclamation mark that no equals sign follows is a lexeme of its own. -/
theorem Lexeme.scan?_bang {cs : List Char} (h : ∀ rest, cs ≠ '=' :: rest) :
    scan? ('!' :: cs) = some (bang, ['!'], cs) := by
  have hsymbol : symbol? ('!' :: cs) = some (bang, 1) := symbol?.eq_9 cs fun rest => h rest
  have hname : isNameStart '!' = false := rfl
  have hdigit : '!'.isDigit = false := rfl
  have hquote : isQuote '!' = false := rfl
  simp only [scan?, hname, hdigit, hquote, Bool.false_eq_true, if_false, hsymbol, Option.map_some,
    List.take_succ_cons, List.take_zero, List.drop_succ_cons, List.drop_zero]

/-- The next lexeme of a text of exclamation marks and spacing is a mark. -/
theorem Lexeme.eq_bang_of_next? {offset : Nat} {tail : List Char} {p : Placed}
    (h : ∀ c ∈ tail, c = '!' ∨ isSpacing c = true) (hp : next? offset tail = .ok (some p)) :
    p.lexeme = .bang := by
  have hscan := (next?_eq_some.mp hp).1
  have hbody : ∀ c ∈ tail.dropWhile isSpacing, c = '!' ∨ isSpacing c = true := fun c hc =>
    h c ((List.dropWhile_suffix isSpacing).mem hc)
  have hhead := List.head?_dropWhile_not isSpacing tail
  rcases htail : tail.dropWhile isSpacing with _ | ⟨c, cs⟩
  · rw [htail] at hscan
    cases hscan
  · rw [htail] at hscan hbody hhead
    have hc : c = '!' := by
      refine (hbody c List.mem_cons_self).resolve_right ?_
      rw [show isSpacing c = false from hhead]
      exact Bool.false_ne_true
    -- A mark followed by an equals sign would be another lexeme.
    have hne : ∀ rest, cs ≠ '=' :: rest := by
      rintro rest rfl
      exact absurd (hbody '=' (List.mem_cons_of_mem c List.mem_cons_self)) (by decide)
    rw [hc, scan?_bang hne, Option.some.injEq, Prod.mk.injEq] at hscan
    exact hscan.1.symm

/-- A text of exclamation marks and spacing holds no token. -/
theorem Reader.nextFrom_ne_some_of_marks {wantsOperand negated : Bool} {first : Option Nat}
    {offset : Nat} {tail : List Char} (h : ∀ c ∈ tail, c = '!' ∨ Lexeme.isSpacing c = true)
    (found : Token String × Reader) :
    nextFrom wantsOperand negated first offset tail ≠ .ok (some found) := by
  intro hnext
  -- Each lexeme is a mark, so the reader goes on until the text ends.
  fun_induction nextFrom wantsOperand negated first offset tail with
  | case1 => cases hnext
  | case2 => cases hnext
  | case3 => cases hnext
  | case4 negated first offset tail p hp start hbang ih =>
      exact ih (fun c hc => h c ((suffix_of_next? hp).mem hc)) hnext
  | case5 => cases hnext
  | case6 => cases hnext
  | case7 negated first offset tail p hp start hbang =>
      exact hbang (Lexeme.eq_bang_of_next? h hp)

theorem Token.tokens_read_of_marks {text : String}
    (h : ∀ c ∈ text.toList, c = '!' ∨ Lexeme.isSpacing c = true) : (read text).tokens = [] := by
  have hsteps : (Reader.start text.toList).steps.1 = [] := by
    rw [Reader.steps_eq]
    rcases hnext : (Reader.start text.toList).next? with fault | _ | found
    · rfl
    · rfl
    · exact absurd (Reader.next?_eq_some.mp hnext).1 (Reader.nextFrom_ne_some_of_marks h found)
  exact List.map_eq_nil_iff.mpr hsteps

end Marks

section Placed

variable {α : Type}

namespace Operand

/-- The values of the elements of a list, which stand at the given offsets. -/
def elementValuesAt (nested : Nested α) : List Nat → List α → Eval (List Value)
  | offset :: offsets, element :: elements => do
    let value ← (nested.eval element).lift offset
    let values ← elementValuesAt nested offsets elements
    return value :: values
  | _, _ => return []

/-- The value of an operand, the expressions inside which stand at the given
    offsets. -/
def valueAt (nested : Nested α) (env : Env) (offsets : List Nat) : Operand α → Eval Value
  | literal value => return value
  | identifier path => env.resolve path
  | self => return env.self
  | group inner => (nested.eval inner).lift (offsets.headD 0)
  | list elements => return .list (← elementValuesAt nested offsets elements)

theorem elementValues_eq (nested : Nested α) (source : String) (start : Nat) (elements : List α) :
    elementValues nested source start elements =
      elementValuesAt nested
        (Text.offsets source.toList start (elements.map fun a => (nested.text a).toList))
        elements := by
  induction elements generalizing start with
  | nil => rfl
  | cons element elements ih =>
      simp only [elementValues, List.map_cons, Text.offsets, elementValuesAt, ih, width_toList]

theorem value_eq (nested : Nested α) (env : Env) (source : String) (inside : Nat) (o : Operand α) :
    o.value nested env source inside =
      o.valueAt nested env
        (Text.offsets source.toList inside (o.nested.map fun a => (nested.text a).toList)) := by
  cases o with
  | list elements => simp only [value, valueAt, Operand.nested, elementValues_eq]
  | _ => rfl

end Operand

/-- The value of an operand of a token, the expressions inside which stand at the
    given offsets. -/
def Token.valueAt (nested : Nested α) (env : Env) (offsets : List Nat) (t : Token α)
    (o : Operand α) : Eval Value := do
  let value ← o.valueAt nested env offsets
  if t.negated then Operand.inverse value else return value

/-- Where the texts of the expressions inside a token are found. -/
theorem Token.offsets_map (textOf : α → String) (source : String) (t : Token α) {o : Operand α}
    (ho : t.kind = .operand o) :
    (t.map textOf).offsets source = Text.offsets source.toList (t.span.start + 1)
      (o.nested.map fun a => (textOf a).toList) := by
  have hnested : t.nested = o.nested := by
    rw [Token.nested, ho]
    rfl
  rw [Token.offsets, Token.nested_map, List.map_map, hnested]
  rfl

/-- Evaluating a token places the errors inside it at the offsets of its texts. -/
theorem Token.value_eq_valueAt (nested : Nested α) (env : Env) (source : String) (t : Token α)
    {o : Operand α} (ho : t.kind = .operand o) :
    t.value nested env source o =
      t.valueAt nested env ((t.map nested.text).offsets source) o := by
  rw [Token.value, Token.valueAt, Operand.value_eq, Token.offsets_map nested.text source t ho]

namespace Program

variable (source : String) (compile : α → Except Error Program)

/-- The elements of a list compiled, which stand at the given offsets. -/
def compileElementsAt : List Nat → List α → Except Error (List Program)
  | offset :: offsets, element :: elements => do
    let program ← compileAt source compile offset element
    let programs ← compileElementsAt offsets elements
    return program :: programs
  | _, _ => .ok []

/-- An operand compiled, the expressions inside which stand at the given offsets. -/
def compileOperandAt (offsets : List Nat) : Operand α → Except Error (Operand Program)
  | .literal value => .ok (.literal value)
  | .identifier path => .ok (.identifier path)
  | .self => .ok .self
  | .group inner => do
    return .group (← compileAt source compile (offsets.headD 0) inner)
  | .list elements => return .list (← compileElementsAt source compile offsets elements)

/-- A token compiled, the expressions inside which stand at the given offsets. -/
def compileTokenAt (offsets : List Nat) (t : Token α) : Except Error (Token Program) := do
  match t.kind with
  | .operator op => return ⟨.operator op, t.span, t.negated⟩
  | .operand o =>
    let o ← compileOperandAt source compile offsets o
    return ⟨.operand o, t.span, t.negated⟩
  | .assign target => return ⟨.assign target, t.span, t.negated⟩

theorem compileElements_eq (textOf : α → String) (start : Nat) (elements : List α) :
    compileElements source textOf compile start elements =
      compileElementsAt source compile
        (Text.offsets source.toList start (elements.map fun a => (textOf a).toList)) elements := by
  induction elements generalizing start with
  | nil => rfl
  | cons element elements ih =>
      simp only [compileElements, List.map_cons, Text.offsets, compileElementsAt, ih, width_toList]

theorem compileOperand_eq (textOf : α → String) (inside : Nat) (o : Operand α) :
    compileOperand source textOf compile inside o =
      compileOperandAt source compile
        (Text.offsets source.toList inside (o.nested.map fun a => (textOf a).toList)) o := by
  cases o with
  | list elements =>
      simp only [compileOperand, compileOperandAt, Operand.nested, compileElements_eq]
  | _ => rfl

/-- Compiling a token places the errors inside it at the offsets of its texts. -/
theorem compileToken_eq_compileTokenAt (textOf : α → String) (t : Token α) :
    compileToken source textOf compile t =
      compileTokenAt source compile ((t.map textOf).offsets source) t := by
  cases hkind : t.kind with
  | operand o =>
      simp only [compileToken, compileTokenAt, hkind, compileOperand_eq,
        Token.offsets_map textOf source t hkind]
  | _ => simp only [compileToken, compileTokenAt, hkind]

end Program

end Placed

namespace Token

/-- The texts inside a token of a text stand at places that follow from how the
    token is written, and evaluating and compiling the token places the errors
    inside it at the offsets where the texts are found. These are the same,
    unless the first of the texts occurs among the exclamation marks before the
    bracket, and then it is found there. Such a text holds no token. -/
theorem offsets_of_nested {text : String} {t : Token String} (ht : t ∈ (read text).tokens)
    (hne : t.nested ≠ []) :
    ∃ b : Bracketed, b.Around text.toList t ∧
      List.Forall₂ (fun n s => ∃ after, TailAt text.toList n (s.toList ++ after))
        (b.places t.span.start) t.nested ∧
      (t.offsets text = b.places t.span.start ↔ ¬ b.Hidden) ∧
      (b.Hidden → ∃ first rest, t.nested = first :: rest ∧ (read first).tokens = []) ∧
      (∀ (α : Type) (nested : Nested α) (env : Env) (u : Token α) (o : Operand α),
        u.map nested.text = t → u.kind = .operand o →
          u.value nested env text o = u.valueAt nested env (t.offsets text) o) ∧
      ∀ compile : String → Except Error Program,
        Program.compileToken text id compile t =
          Program.compileTokenAt text compile (t.offsets text) t := by
  rcases exists_bracketed ht hne with ⟨b, hb⟩
  have htexts := Bracketed.toList_nested hb.kind_eq
  refine ⟨b, hb, ?_, hb.offsets_eq_places_iff, ?_, ?_, fun compile => ?_⟩
  · have hstand := hb.places_stand
    rwa [← htexts, List.forall₂_map_right_iff] at hstand
  · rintro ⟨_, first, rest, hfirst, hoccurs⟩
    rw [hfirst] at htexts
    rcases hnested : t.nested with _ | ⟨s, ss⟩
    · exact absurd hnested hne
    · rw [hnested, List.map_cons, List.cons.injEq] at htexts
      refine ⟨s, ss, rfl, tokens_read_of_marks fun c hc => ?_⟩
      rw [htexts.1] at hc
      -- What lies among the marks consists of marks.
      rcases hb.marks with hmarks | ⟨more, hmarks, hmore⟩
      · rw [hmarks, List.tail_nil, List.infix_nil] at hoccurs
        rw [hoccurs] at hc
        cases hc
      · rw [hmarks] at hoccurs
        exact hmore c (hoccurs.mem hc)
  · rintro α nested env u o rfl ho
    exact u.value_eq_valueAt nested env text ho
  · have hcompile := Program.compileToken_eq_compileTokenAt text compile id t
    rwa [map_id] at hcompile

/-- In `!!(!)` the text inside the bracket is found at byte 1, before the bracket,
    and stands at byte 3. It is an error, which is placed at byte 2 and happens at
    byte 4, at the end of that text. -/
theorem offsets_of_nested_hidden :
    ∃ t ∈ (read "!!(!)").tokens, t.nested = ["!"] ∧ t.offsets "!!(!)" = [1] ∧
      (∃ b : Bracketed, b.Around "!!(!)".toList t ∧ b.Hidden ∧ b.places t.span.start = [3]) ∧
      (∃ b : Bracketed, b.Around "!!(!)".toList t ∧
        (t.offsets "!!(!)" = b.places t.span.start ↔ ¬ b.Hidden)) ∧
      (Interpret.whole {} ⟨.null, .null⟩ "!!(!)").outcome (.ofGlobals .empty) =
        (.error ⟨.illFormed (.fault (.unexpected 1 "!")), some "!!(!)", some 2⟩,
          .ofGlobals .empty) := by
  have hread : read "!!(!)" = ⟨[⟨.operand (.group "!"), ⟨0, 5⟩, false⟩], .finished false⟩ := by
    rw [read_eq 6 (by decide)]
    with_unfolding_all rfl
  have hmem : ⟨.operand (.group "!"), ⟨0, 5⟩, false⟩ ∈ (read "!!(!)").tokens := by
    rw [hread]
    exact List.mem_singleton_self _
  rcases offsets_of_nested hmem (List.cons_ne_nil _ _) with ⟨b, hb, _, hoffsets, _⟩
  refine ⟨_, hmem, rfl, rfl, ⟨⟨['!', '!'], true, ['!'], []⟩, ⟨tailAt_zero _, rfl, rfl, ?_, ?_⟩,
    ⟨List.cons_ne_nil _ _, ['!'], [], rfl, List.infix_refl _⟩, rfl⟩, ⟨b, hb, hoffsets⟩, ?_⟩
  · exact Or.inr ⟨['!'], rfl, fun c hc => Or.inl (List.mem_singleton.mp hc)⟩
  · exact level_of_plain (List.forall_mem_singleton.mpr rfl)
  · rw [Interpret.whole_eq, hread]
    with_unfolding_all rfl

end Token

end Reckon
