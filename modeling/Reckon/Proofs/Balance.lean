import Reckon.Proofs.Scanning

/-!
# Balanced Texts

A text is balanced if it is made of complete quoted texts, characters other than quotes and
brackets, and brackets around balanced texts. This says nothing about how such a text is
found, and it is what a scanner that looks for a closer steps over: the closer is found
exactly where the text before it is balanced (`Text.closerIn_eq_some_iff`).

That a balanced text is stepped over follows its grammar. The other direction follows the
scanner. In its midst some brackets are open, so what it has still to step over is balanced
but for as many closers, with balanced texts between them (`Text.Closing`).

## Main definitions

* `Text.QuotedInside`: What may stand between two quotes of a kind.
* `Text.Balanced`: Texts whose quotes and brackets are complete.
* `Text.Closing`: Texts that are balanced but for some closers.

## Theorems

* `Text.QuotedInside.afterQuoted_eq`, `Text.quotedInside_of_afterQuoted`: Where a quoted text
  ends.
* `Text.Balanced.level`: A scanner steps over balanced texts.
* `Text.closing_of_closerIn`: What a scanner has stepped over.
* `Text.closerIn_eq_some_iff`: Where a closer is found.
-/

namespace Reckon

namespace Text

/-- What may stand between two quotes: any characters but the quote and the backslash, and
    backslashes, each with a character behind it. -/
inductive QuotedInside (quote : Char) : List Char → Prop
  | nil : QuotedInside quote []
  | char {c : Char} {cs : List Char} : c ≠ '\\' → c ≠ quote → QuotedInside quote cs →
      QuotedInside quote (c :: cs)
  | escape {c : Char} {cs : List Char} : QuotedInside quote cs →
      QuotedInside quote ('\\' :: c :: cs)

/-- Texts made of complete quoted texts, characters that are neither quotes nor brackets, and
    brackets around such texts. A bracket may be closed by a closer of another kind. -/
inductive Balanced : List Char → Prop
  | nil : Balanced []
  | plain {c : Char} {cs : List Char} : isPlain c = true → Balanced cs → Balanced (c :: cs)
  | quoted {quote : Char} {inside cs : List Char} : isQuote quote = true →
      QuotedInside quote inside → Balanced cs → Balanced (quote :: (inside ++ quote :: cs))
  | bracketed {opener closer : Char} {inside cs : List Char} : isOpener opener = true →
      isCloser closer = true → Balanced inside → Balanced cs →
      Balanced (opener :: (inside ++ closer :: cs))

section Quotes

variable {quote : Char} {cs inside tail : List Char}

/-- The quote behind what may stand between quotes ends the quoted text. -/
theorem QuotedInside.afterQuoted_eq (h : QuotedInside quote inside) (hquote : isQuote quote = true)
    (tail : List Char) : afterQuoted quote (inside ++ quote :: tail) = some tail := by
  rw [afterQuoted]
  induction h with
  | nil =>
      rw [List.nil_append, afterQuote_cons _ _ (ne_escape_of_isQuote hquote), if_pos rfl]
  | char hescape hne _ ih =>
      rw [List.cons_append, afterQuote_cons _ _ hescape, if_neg hne]
      exact ih
  | escape _ ih =>
      simp only [List.cons_append, afterQuote, if_true]
      exact ih

/-- A quoted text ends at the first quote that no backslash stands before. -/
theorem quotedInside_of_afterQuoted (h : afterQuoted quote cs = some tail) :
    ∃ inside, cs = inside ++ quote :: tail ∧ QuotedInside quote inside := by
  unfold afterQuoted at h
  fun_induction afterQuote (fun _ => true) quote cs with
  | case1 => cases h
  | case2 => cases h
  | case3 c cs _ ih =>
      rcases ih h with ⟨inside, rfl, hinside⟩
      exact ⟨'\\' :: c :: inside, rfl, hinside.escape⟩
  | case4 _ _ hescape => exact absurd rfl hescape
  | case5 cs =>
      cases h
      exact ⟨[], rfl, .nil⟩
  | case6 c cs hlast hescape hne ih =>
      rcases ih h with ⟨inside, rfl, hinside⟩
      have hc : c ≠ '\\' := by
        intro hc
        -- What follows a backslash was taken with it, if anything does.
        cases hcs : inside ++ quote :: tail with
        | nil => exact hlast hc hcs
        | cons c' cs' => exact hescape c' cs' hc hcs
      exact ⟨c :: inside, rfl, hinside.char hc hne⟩

end Quotes

section Closers

variable {k : Nat} {closer : Char} {cs tail : List Char}

/-- A scanner steps over balanced texts. -/
theorem Balanced.level (h : Balanced cs) : Level cs := by
  induction h with
  | nil => exact level_nil
  | plain hplain _ ih => exact (closes_plain hplain).mpr ih
  | quoted hquote hinside _ ih =>
      exact (closes_quote hquote (hinside.afterQuoted_eq hquote)).mpr ih
  | bracketed hopener hcloser _ _ ihinside ih =>
      exact (closes_opener hopener).mpr (ihinside.append ((closes_closer hcloser).mpr ih))

/-- Texts that are balanced but for `k` closers, of brackets opened before. -/
inductive Closing : Nat → List Char → Prop
  | balanced {cs : List Char} : Balanced cs → Closing 0 cs
  | closer {k : Nat} {closer : Char} {inside cs : List Char} : Balanced inside →
      isCloser closer = true → Closing k cs → Closing (k + 1) (inside ++ closer :: cs)

theorem closing_zero_iff : Closing 0 cs ↔ Balanced cs := by
  constructor
  · rintro ⟨h⟩
    exact h
  · exact .balanced

/-- What may stand before balanced texts may stand before the first closer. -/
theorem Closing.prepend (h : Closing k cs) (front : List Char)
    (hfront : ∀ cs, Balanced cs → Balanced (front ++ cs)) : Closing k (front ++ cs) := by
  cases h with
  | balanced hcs => exact .balanced (hfront _ hcs)
  | closer hinside hcloser hcs =>
      rw [← List.append_assoc]
      exact .closer (hfront _ hinside) hcloser hcs

/-- An opener takes the first closer for its own. -/
theorem Closing.opener {opener : Char} (hopener : isOpener opener = true)
    (h : Closing (k + 1) cs) : Closing k (opener :: cs) := by
  cases h with
  | @closer _ closer inside cs hinside hcloser hcs =>
      have hbracketed := hcs.prepend (opener :: (inside ++ [closer])) fun cs hcs => by
        rw [List.cons_append, List.append_assoc]
        exact hinside.bracketed hopener hcloser hcs
      rwa [List.cons_append, List.append_assoc] at hbracketed

/-- What a scanner with `k` open brackets steps over on its way to a closer. -/
theorem closing_of_closerIn (h : closerIn closer k cs = some tail) :
    ∃ inside after, cs = inside ++ closer :: after ∧ tail = closer :: after ∧
      Closing k inside := by
  -- The grammar is built along the scanner, with one closer to come for each level.
  fun_induction closerIn closer k cs with
  | case1 => cases h
  | case2 => cases h
  | case3 k c cs hquote rest hrest ih =>
      rcases quotedInside_of_afterQuoted hrest with ⟨front, rfl, hfront⟩
      rcases ih h with ⟨inside, after, rfl, htail, hinside⟩
      have hquoted := hinside.prepend (c :: (front ++ [c])) fun cs hcs => by
        rw [List.cons_append, List.append_assoc]
        exact hcs.quoted hquote hfront
      refine ⟨_, after, ?_, htail, hquoted⟩
      simp only [List.cons_append, List.append_assoc, List.nil_append]
  | case4 k c cs _ hopener ih =>
      rcases ih h with ⟨inside, after, rfl, htail, hinside⟩
      exact ⟨c :: inside, after, rfl, htail, hinside.opener hopener⟩
  | case5 cs =>
      cases h
      exact ⟨[], cs, rfl, rfl, .balanced .nil⟩
  | case6 => cases h
  | case7 c cs _ _ hcloser k ih =>
      rcases ih h with ⟨inside, after, rfl, htail, hinside⟩
      exact ⟨c :: inside, after, rfl, htail, hinside.closer .nil hcloser⟩
  | case8 k c cs hquote hopener hcloser ih =>
      have hplain := isPlain_of_not hquote hopener hcloser
      rcases ih h with ⟨inside, after, rfl, htail, hinside⟩
      exact ⟨c :: inside, after, rfl, htail, hinside.prepend [c] fun _ => .plain hplain⟩

/-- A closer is found where the text before it is balanced. -/
theorem closerIn_eq_some_iff (hcloser : isCloser closer = true) :
    closerIn closer 0 cs = some tail ↔
      ∃ inside after, cs = inside ++ closer :: after ∧ tail = closer :: after ∧
        Balanced inside := by
  constructor
  · intro h
    rcases closing_of_closerIn h with ⟨inside, after, hcs, htail, hinside⟩
    exact ⟨inside, after, hcs, htail, closing_zero_iff.mp hinside⟩
  · rintro ⟨inside, after, rfl, rfl, hinside⟩
    exact hinside.level.closerIn_eq hcloser after

end Closers

end Text

end Reckon
