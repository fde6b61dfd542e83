import Reckon.Proofs.Continuation
import Reckon.Proofs.Offsets

/-!
# Texts between Brackets

A scanner that looks for the closer of a bracket keeps a count of the brackets
that are open, and steps over quoted texts. Most texts leave the count where it
was: scanning such a text is the same as leaving it out. These are the level
texts, and everything between a bracket and its closer is one
(`Text.closes_of_closerIn`), and so is every part of it between commas
(`Text.Level.of_mem_splitCommas`).

The proofs go through a text in the middle of which brackets are open, so what
is carried along is the number of brackets that the rest of the text closes
(`Text.Closes`). Whatever a scanner can do with a character is one equivalence
there.

What starts with a bracket and goes on with only a part of what is level is never
level itself, whatever blanks follow: the bracket is still open at its end
(`Text.Level.not_opener_prefix`). No search for a level text that starts before
a bracket can therefore end inside it.

## Main definitions

* `Text.isPlain`: Characters that mean nothing to a scanner.
* `Text.Closes`: A text that closes brackets opened before it.
* `Text.Level`: A text that closes what it opens, and nothing else.

## Theorems

* `Text.afterQuote_eq_some`: A quoted text ends at a quote, whatever follows.
* `Text.closes_of_closerIn`: What stands between a bracket and its closer.
* `Text.splitCommas_induction`: Cutting a text at its commas, part by part.
* `Text.Level.of_mem_splitCommas`: What stands between commas.
* `Text.Level.not_opener_prefix`: What a level text cannot be.
-/

namespace Reckon

namespace Text

/-- A quoted text ends with its quote. What follows it does not matter, nor does it
    if more escapes are allowed. -/
theorem afterQuote_eq_some_of_imp {mayEscape mayEscape' : Char → Bool} {quote : Char}
    {cs tail : List Char} (himp : ∀ c, mayEscape c = true → mayEscape' c = true)
    (h : afterQuote mayEscape quote cs = some tail) :
    ∃ front, cs = front ++ quote :: tail ∧
      ∀ rest, afterQuote mayEscape' quote (front ++ quote :: rest) = some rest := by
  have hne {c : Char} {cs : List Char} (hlast : c = '\\' → cs = [] → False)
      (hescape : ∀ c' cs', c = '\\' → cs = c' :: cs' → False) : c ≠ '\\' := by
    intro hc
    cases cs with
    | nil => exact hlast hc rfl
    | cons c' cs' => exact hescape c' cs' hc rfl
  -- Along the scanner: an escaped character, the closing quote, or a character to keep.
  fun_induction afterQuote mayEscape quote cs with
  | case1 => cases h
  | case2 => cases h
  | case3 c cs hescape ih =>
      rcases ih h with ⟨front, rfl, hfront⟩
      refine ⟨'\\' :: c :: front, rfl, fun rest => ?_⟩
      simp only [List.cons_append, afterQuote, himp c hescape, if_true]
      exact hfront rest
  | case4 => cases h
  | case5 cs hlast hescape =>
      cases h
      refine ⟨[], rfl, fun rest => ?_⟩
      rw [List.nil_append, afterQuote_cons _ _ (hne hlast hescape), if_pos rfl]
  | case6 c cs hlast hescape hquote ih =>
      rcases ih h with ⟨front, rfl, hfront⟩
      refine ⟨c :: front, rfl, fun rest => ?_⟩
      rw [List.cons_append, afterQuote_cons _ _ (hne hlast hescape), if_neg hquote]
      exact hfront rest

theorem afterQuote_eq_some {mayEscape : Char → Bool} {quote : Char} {cs tail : List Char}
    (h : afterQuote mayEscape quote cs = some tail) :
    ∃ front, cs = front ++ quote :: tail ∧
      ∀ rest, afterQuote mayEscape quote (front ++ quote :: rest) = some rest :=
  afterQuote_eq_some_of_imp (fun _ => id) h

section Characters

variable {c : Char}

/-- A character that means nothing to a scanner: no quote and no bracket. -/
def isPlain (c : Char) : Bool := !isQuote c && !isOpener c && !isCloser c

theorem isQuote_of_isOpener (h : isOpener c = true) : isQuote c = false := by
  simp only [isOpener, Bool.or_eq_true, beq_iff_eq] at h
  rcases h with (rfl | rfl) | rfl <;> rfl

theorem isQuote_of_isCloser (h : isCloser c = true) : isQuote c = false := by
  simp only [isCloser, Bool.or_eq_true, beq_iff_eq] at h
  rcases h with (rfl | rfl) | rfl <;> rfl

theorem isOpener_of_isCloser (h : isCloser c = true) : isOpener c = false := by
  simp only [isCloser, Bool.or_eq_true, beq_iff_eq] at h
  rcases h with (rfl | rfl) | rfl <;> rfl

theorem isPlain_iff : isPlain c = true ↔ isQuote c = false ∧ isOpener c = false ∧
    isCloser c = false := by
  simp only [isPlain, Bool.and_eq_true, Bool.not_eq_true', and_assoc]

theorem isPlain_of_not (hquote : ¬ isQuote c = true) (hopen : ¬ isOpener c = true)
    (hclose : ¬ isCloser c = true) : isPlain c = true :=
  isPlain_iff.mpr ⟨Bool.eq_false_iff.mpr hquote, Bool.eq_false_iff.mpr hopen,
    Bool.eq_false_iff.mpr hclose⟩

theorem ne_escape_of_isQuote (h : isQuote c = true) : c ≠ '\\' := by
  rintro rfl
  cases h

theorem isPlain_of_isQuote (h : isQuote c = true) : isPlain c = false := by
  rw [isPlain, h, Bool.not_true, Bool.false_and, Bool.false_and]

theorem isPlain_of_isCloser (h : isCloser c = true) : isPlain c = false := by
  rw [isPlain, h, Bool.not_true, Bool.and_false]

/-- Neither quotes nor brackets are blank. -/
theorem isPlain_of_isBlank (h : isBlank c = true) : isPlain c = true := by
  rw [isPlain_iff]
  refine ⟨?_, ?_, ?_⟩
  all_goals
    rw [Bool.eq_false_iff]
    intro hs
    simp only [isQuote, isOpener, isCloser, Bool.or_eq_true, beq_iff_eq] at hs
  · rcases hs with rfl | rfl <;> exact absurd h (by decide)
  · rcases hs with (rfl | rfl) | rfl <;> exact absurd h (by decide)
  · rcases hs with (rfl | rfl) | rfl <;> exact absurd h (by decide)

end Characters

section Closer

variable {closer c : Char} {depth : Nat} {cs : List Char}

theorem closerIn_nil (closer : Char) (depth : Nat) : closerIn closer depth [] = none := by
  rw [closerIn]

/-- A quoted text is stepped over. -/
theorem closerIn_quote {front : List Char} (hc : isQuote c = true)
    (hfront : ∀ rest, afterQuoted c (front ++ c :: rest) = some rest) :
    closerIn closer depth (c :: (front ++ c :: cs)) = closerIn closer depth cs := by
  rw [closerIn_cons, if_pos hc, hfront, Option.bind_some]

theorem closerIn_opener (hc : isOpener c = true) :
    closerIn closer depth (c :: cs) = closerIn closer (depth + 1) cs := by
  rw [closerIn_cons, isQuote_of_isOpener hc, if_neg Bool.false_ne_true, if_pos hc]

theorem closerIn_closer (hc : isCloser c = true) :
    closerIn closer (depth + 1) (c :: cs) = closerIn closer depth cs := by
  rw [closerIn_cons, isQuote_of_isCloser hc, isOpener_of_isCloser hc, if_neg Bool.false_ne_true,
    if_neg Bool.false_ne_true, if_pos hc]

theorem closerIn_self (hc : isCloser c = true) : closerIn c 0 (c :: cs) = some (c :: cs) := by
  rw [closerIn_cons, isQuote_of_isCloser hc, isOpener_of_isCloser hc, if_neg Bool.false_ne_true,
    if_neg Bool.false_ne_true, if_pos hc]
  exact if_pos rfl

theorem closerIn_plain (hc : isPlain c = true) :
    closerIn closer depth (c :: cs) = closerIn closer depth cs := by
  rcases isPlain_iff.mp hc with ⟨hquote, hopen, hclose⟩
  rw [closerIn_cons, hquote, hopen, hclose]
  rfl

end Closer

/-- A text that closes `k` brackets which were opened before it. It closes all
    that it opens, and its quoted texts end in it, so that a scanner is left
    where it would have been without the text. -/
def Closes (k : Nat) (cs : List Char) : Prop :=
  ∀ closer depth rest, closerIn closer (depth + k) (cs ++ rest) = closerIn closer depth rest

/-- A text that closes what it opens, and nothing else. -/
abbrev Level (cs : List Char) : Prop := Closes 0 cs

section Closes

variable {k : Nat} {c : Char} {cs : List Char}

theorem level_nil : Level [] := fun _ _ _ => rfl

theorem Closes.append {j : Nat} {as bs : List Char} (has : Closes j as) (hbs : Closes k bs) :
    Closes (k + j) (as ++ bs) := by
  intro closer depth rest
  rw [List.append_assoc, ← Nat.add_assoc, has, hbs]

theorem closes_quote {front : List Char} (hc : isQuote c = true)
    (hfront : ∀ rest, afterQuoted c (front ++ c :: rest) = some rest) :
    Closes k (c :: (front ++ c :: cs)) ↔ Closes k cs := by
  unfold Closes
  simp only [List.cons_append, List.append_assoc, closerIn_quote hc hfront]

theorem closes_opener (hc : isOpener c = true) : Closes k (c :: cs) ↔ Closes (k + 1) cs := by
  unfold Closes
  simp only [List.cons_append, closerIn_opener hc, Nat.add_assoc]

theorem closes_closer (hc : isCloser c = true) : Closes (k + 1) (c :: cs) ↔ Closes k cs := by
  unfold Closes
  simp only [List.cons_append, ← Nat.add_assoc, closerIn_closer hc]

/-- A level text does not start with a closer. -/
theorem not_level_closer (hc : isCloser c = true) : ¬ Level (c :: cs) := by
  intro h
  have hfound := h c 0 []
  rw [List.append_nil, closerIn_self hc, closerIn_nil] at hfound
  cases hfound

theorem closes_plain (hc : isPlain c = true) : Closes k (c :: cs) ↔ Closes k cs := by
  unfold Closes
  simp only [List.cons_append, closerIn_plain hc]

theorem closes_append_plain {as : List Char} (has : ∀ c ∈ as, isPlain c = true) :
    Closes k (as ++ cs) ↔ Closes k cs := by
  induction as with
  | nil => rfl
  | cons a as ih =>
      rw [List.cons_append, closes_plain (has a List.mem_cons_self)]
      exact ih fun c hc => has c (List.mem_cons_of_mem a hc)

/-- A text without quotes and brackets is level. -/
theorem level_of_plain (h : ∀ c ∈ cs, isPlain c = true) : Level cs := by
  rw [← List.append_nil cs, Level, closes_append_plain h]
  exact level_nil

/-- What a scanner steps over on its way to a closer closes as many brackets as
    were open, and what stands there is the closer. -/
theorem closes_of_closerIn {closer : Char} {tail : List Char}
    (h : closerIn closer k cs = some tail) :
    ∃ inside after, cs = inside ++ closer :: after ∧ tail = closer :: after ∧
      isCloser closer = true ∧ Closes k inside := by
  -- The text in front of the closer grows by a quoted part, a bracket or a plain character.
  fun_induction closerIn closer k cs with
  | case1 => cases h
  | case2 => cases h
  | case3 k c cs hquote rest hrest ih =>
      rcases afterQuote_eq_some hrest with ⟨front, rfl, hfront⟩
      rcases ih h with ⟨inside, after, rfl, htail, hclose, hinside⟩
      refine ⟨c :: (front ++ c :: inside), after, ?_, htail, hclose,
        (closes_quote hquote hfront).mpr hinside⟩
      rw [List.cons_append, List.append_assoc, List.cons_append]
  | case4 k c cs _ hopen ih =>
      rcases ih h with ⟨inside, after, rfl, htail, hclose, hinside⟩
      exact ⟨c :: inside, after, rfl, htail, hclose, (closes_opener hopen).mpr hinside⟩
  | case5 cs _ _ hclose =>
      cases h
      exact ⟨[], cs, rfl, rfl, hclose, level_nil⟩
  | case6 => cases h
  | case7 c cs _ _ hclose k ih =>
      rcases ih h with ⟨inside, after, rfl, htail, hclose', hinside⟩
      exact ⟨c :: inside, after, rfl, htail, hclose', (closes_closer hclose).mpr hinside⟩
  | case8 k c cs hquote hopen hclose ih =>
      have hplain := isPlain_of_not hquote hopen hclose
      rcases ih h with ⟨inside, after, rfl, htail, hclose', hinside⟩
      exact ⟨c :: inside, after, rfl, htail, hclose', (closes_plain hplain).mpr hinside⟩

/-- A closer is found right behind a level text. -/
theorem Level.closerIn_eq {closer : Char} (h : Level cs) (hcloser : isCloser closer = true)
    (after : List Char) :
    closerIn closer 0 (cs ++ closer :: after) = some (closer :: after) :=
  (h closer 0 (closer :: after)).trans (closerIn_self hcloser)

/-- A level text in brackets is level. -/
theorem Level.bracketed {opener closer : Char} (h : Level cs) (hopener : isOpener opener = true)
    (hcloser : isCloser closer = true) : Level (opener :: (cs ++ [closer])) := by
  rw [Level, closes_opener hopener]
  exact h.append ((closes_closer hcloser).mpr level_nil)

end Closes

section Commas

/-- What a scanner steps over on its way to a comma closes the brackets that were
    open, and what follows the comma is level. -/
theorem Closes.of_commaIn {k : Nat} {cs tail : List Char} (hcs : Closes k cs)
    (h : commaIn k cs = some tail) :
    ∃ part rest, cs = part ++ ',' :: rest ∧ tail = ',' :: rest ∧ Closes k part ∧ Level rest := by
  fun_induction commaIn k cs with
  | case1 => cases h
  | case2 => cases h
  | case3 k c cs hquote after hafter ih =>
      rcases afterQuote_eq_some hafter with ⟨front, rfl, hfront⟩
      rcases ih ((closes_quote hquote hfront).mp hcs) h with ⟨part, rest, rfl, htail, hpart, hrest⟩
      refine ⟨c :: (front ++ c :: part), rest, ?_, htail, (closes_quote hquote hfront).mpr hpart,
        hrest⟩
      rw [List.cons_append, List.append_assoc, List.cons_append]
  | case4 k c cs _ hopen ih =>
      rcases ih ((closes_opener hopen).mp hcs) h with ⟨part, rest, rfl, htail, hpart, hrest⟩
      exact ⟨c :: part, rest, rfl, htail, (closes_opener hopen).mpr hpart, hrest⟩
  | case5 k c cs _ _ hclose ih =>
      -- A closer closes a bracket that was open, or the text would not be level.
      cases k with
      | zero => exact absurd hcs (not_level_closer hclose)
      | succ k =>
          rcases ih ((closes_closer hclose).mp hcs) h with ⟨part, rest, rfl, htail, hpart, hrest⟩
          exact ⟨c :: part, rest, rfl, htail, (closes_closer hclose).mpr hpart, hrest⟩
  | case6 k c cs _ _ _ hcomma =>
      rcases hcomma with ⟨rfl, rfl⟩
      cases h
      exact ⟨[], cs, rfl, rfl, level_nil, (closes_plain rfl).mp hcs⟩
  | case7 k c cs hquote hopen hclose _ ih =>
      have hplain := isPlain_of_not hquote hopen hclose
      rcases ih ((closes_plain hplain).mp hcs) h with ⟨part, rest, rfl, htail, hpart, hrest⟩
      exact ⟨c :: part, rest, rfl, htail, (closes_plain hplain).mpr hpart, hrest⟩

/-- What is found at a comma is a comma. -/
theorem exists_of_commaIn {depth : Nat} {cs tail : List Char} (h : commaIn depth cs = some tail) :
    ∃ part rest, cs = part ++ ',' :: rest ∧ tail = ',' :: rest := by
  -- What the scanner returns is a suffix, and it begins with the comma.
  have hcomma : ∃ rest, tail = ',' :: rest := by
    fun_induction commaIn depth cs with
    | case1 => cases h
    | case2 => cases h
    | case3 _ _ _ _ _ _ ih => exact ih h
    | case4 _ _ _ _ _ ih => exact ih h
    | case5 _ _ _ _ _ _ ih => exact ih h
    | case6 _ c cs _ _ _ hcomma =>
        cases h
        exact ⟨cs, congrArg (· :: cs) hcomma.1⟩
    | case7 _ _ _ _ _ _ _ ih => exact ih h
  rcases hcomma with ⟨rest, rfl⟩
  rcases suffix_of_commaIn h with ⟨part, rfl⟩
  exact ⟨part, rest, rfl, rfl⟩

theorem upTo_append_self (as bs : List Char) : upTo (as ++ bs) bs = as :=
  List.append_cancel_right (upTo_append_of_suffix (List.suffix_append as bs))

theorem splitCommas_of_none {cs : List Char} (h : commaIn 0 cs = none) : splitCommas cs = [cs] := by
  rw [splitCommas, h]

theorem splitCommas_of_comma {part tail : List Char}
    (h : commaIn 0 (part ++ ',' :: tail) = some (',' :: tail)) :
    splitCommas (part ++ ',' :: tail) = part :: splitCommas tail := by
  rw [splitCommas]
  split
  next comma tail' h' =>
    rw [h] at h'
    cases h'
    rw [upTo_append_self]
  next hnone => exact absurd h (hnone _ _)

/-- Texts are cut at their commas one part after the other: a text is either a
    part alone, or a part, a comma and a text that is cut in turn. -/
theorem splitCommas_induction {P : List Char → Prop}
    (last : ∀ cs, commaIn 0 cs = none → P cs)
    (more : ∀ part tail, commaIn 0 (part ++ ',' :: tail) = some (',' :: tail) → P tail →
      P (part ++ ',' :: tail)) (cs : List Char) : P cs := by
  fun_induction splitCommas cs with
  | case1 cs comma tail hcomma ih =>
      rcases exists_of_commaIn hcomma with ⟨part, rest, rfl, heq⟩
      cases heq
      exact more part tail hcomma ih
  | case2 cs hnone =>
      refine last cs (Option.eq_none_iff_forall_not_mem.mpr fun tail htail => ?_)
      rcases exists_of_commaIn htail with ⟨_, rest, _, rfl⟩
      exact hnone _ _ htail

/-- The parts of a level text between its commas are level. -/
theorem Level.of_mem_splitCommas {cs part : List Char} (hcs : Level cs)
    (h : part ∈ splitCommas cs) : Level part := by
  induction cs using splitCommas_induction with
  | last cs hnone =>
      rw [splitCommas_of_none hnone, List.mem_singleton] at h
      rwa [h]
  | more first tail hcomma ih =>
      rcases hcs.of_commaIn hcomma with ⟨first', rest, heq, htail, hfirst, hrest⟩
      cases htail
      cases List.append_cancel_right heq
      rw [splitCommas_of_comma hcomma] at h
      rcases List.mem_cons.mp h with rfl | h
      · exact hfirst
      · exact ih hrest h

end Commas

section Prefix

/-- A character of two texts is one of the first or one of the second. -/
theorem cases_of_append_eq {x z front rest : List Char} {c : Char}
    (h : x ++ z = front ++ c :: rest) :
    (∃ x', x = front ++ c :: x' ∧ rest = x' ++ z) ∨
      ∃ z', front = x ++ z' ∧ z = z' ++ c :: rest := by
  rcases List.append_eq_append_iff.mp h with ⟨z', hfront, hz⟩ | ⟨x', hx, hrest⟩
  · exact Or.inr ⟨z', hfront, hz⟩
  · cases x' with
    | nil => exact Or.inr ⟨[], by rw [hx, List.append_nil, List.append_nil], hrest.symm⟩
    | cons d x' =>
        cases hrest
        exact Or.inl ⟨x', hx, rfl⟩

/-- A character that is not in the second of two parts is in the first one. -/
theorem exists_of_append_eq {x z front rest : List Char} {c : Char}
    (h : x ++ z = front ++ c :: rest) (hc : c ∉ z) :
    ∃ x', x = front ++ c :: x' ∧ rest = x' ++ z := by
  rcases cases_of_append_eq h with hx | ⟨z', _, hz⟩
  · exact hx
  · rw [hz] at hc
    exact absurd (List.mem_append_right _ List.mem_cons_self) hc

/-- A scanner that gets through `x` and finds its closer later gets through `x`
    if more brackets are open, unless it ends there. What follows `x` may be
    another text, without quotes. -/
theorem closerIn_deeper {closer : Char} {depth : Nat} {x y z tail : List Char}
    (h : closerIn closer depth (x ++ y) = some tail) (hlen : tail.length ≤ y.length)
    (hz : ∀ c ∈ z, isQuote c = false) (k : Nat) :
    closerIn closer (depth + k) (x ++ z) = none ∨
      ∃ depth', closerIn closer (depth + k) (x ++ z) = closerIn closer (depth' + k) z := by
  generalize hcs : x ++ y = cs at h
  fun_induction closerIn closer depth cs generalizing x with
  | case1 => cases h
  | case2 => cases h
  | case3 depth c cs hquote rest hrest ih =>
      rcases x with _ | ⟨_, x⟩
      · exact Or.inr ⟨depth, rfl⟩
      cases hcs
      rw [List.cons_append, closerIn_cons, if_pos hquote]
      rcases hafter : afterQuoted c (x ++ z) with _ | rest'
      · exact Or.inl rfl
      · -- The quote ends in `x`, as there is none behind it, and so it did before.
        rcases afterQuote_eq_some hafter with ⟨front, heq, hfront⟩
        have hc : c ∉ z := fun hmem => Bool.noConfusion (hquote.symm.trans (hz c hmem))
        rcases exists_of_append_eq heq hc with ⟨x', rfl, rfl⟩
        have hrest' : afterQuoted c (front ++ c :: (x' ++ y)) = some rest := by
          rw [← hrest]
          exact congrArg (afterQuoted c) (List.append_assoc front (c :: x') y).symm
        rw [afterQuoted, hfront] at hrest'
        cases hrest'
        exact ih rfl h
  | case4 depth c cs hquote hopen ih =>
      rcases x with _ | ⟨_, x⟩
      · exact Or.inr ⟨depth, rfl⟩
      cases hcs
      rw [List.cons_append, closerIn_opener hopen, Nat.add_right_comm]
      exact ih rfl h
  | case5 cs hquote hopen hclose =>
      rcases x with _ | ⟨_, x⟩
      · exact Or.inr ⟨0, rfl⟩
      · -- The closer would be found in `x`.
        cases h
        have hlong := congrArg List.length hcs
        simp only [List.length_append, List.length_cons] at hlong hlen
        omega
  | case6 => cases h
  | case7 c cs hquote hopen hclose depth ih =>
      rcases x with _ | ⟨_, x⟩
      · exact Or.inr ⟨depth + 1, rfl⟩
      cases hcs
      rw [List.cons_append, Nat.succ_add, closerIn_closer hclose]
      exact ih rfl h
  | case8 depth c cs hquote hopen hclose ih =>
      rcases x with _ | ⟨_, x⟩
      · exact Or.inr ⟨depth, rfl⟩
      cases hcs
      rw [List.cons_append, closerIn_plain (isPlain_of_not hquote hopen hclose)]
      exact ih rfl h

/-- A level text does not consist of a bracket and the start of another level
    text, cut off before its end, whatever blanks stand around it. The scanner
    that gets through the start would find the bracket still open. -/
theorem Level.not_opener_prefix {opener : Char} {before x y after : List Char}
    (hopener : isOpener opener = true) (hbefore : ∀ c ∈ before, isPlain c = true)
    (hafter : ∀ c ∈ after, isPlain c = true) (hwhole : Level (x ++ y)) :
    ¬ Level (before ++ opener :: (x ++ after)) := by
  intro h
  have hclose : isCloser ')' = true := rfl
  rw [Level, closes_append_plain hbefore, closes_opener hopener] at h
  have hfound := h ')' 0 [')']
  rw [closerIn_self hclose, List.append_assoc] at hfound
  have hquote : ∀ c ∈ after ++ [')'], isQuote c = false := by
    intro c hc
    rcases List.mem_append.mp hc with hc | hc
    · exact (isPlain_iff.mp (hafter c hc)).1
    · rw [List.mem_singleton.mp hc]
      rfl
  -- At the end of `x` the bracket is open, and only its closer is left.
  have hnone (depth : Nat) : closerIn ')' (depth + 1) (after ++ [')']) = none := by
    rw [level_of_plain hafter, closerIn_closer hclose, closerIn_nil]
  have hscan := hwhole.closerIn_eq hclose []
  rw [List.append_assoc] at hscan
  have hlen : [')'].length ≤ (y ++ [')']).length := by
    rw [List.length_append]
    exact Nat.le_add_left _ _
  rcases closerIn_deeper hscan hlen hquote 1 with hx | ⟨depth, hx⟩
  · rw [hx] at hfound
    cases hfound
  · rw [hx, hnone] at hfound
    cases hfound

end Prefix

end Text

end Reckon
