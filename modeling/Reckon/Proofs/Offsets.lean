import Reckon.Text.Bracket

/-!
# Places in a Text

A byte offset names a place in a text if no character is cut in two by it. What
is left of the text from there on says the same and is easier to reason about:
`TailAt` relates the two, and going forward by some characters is going forward
by their bytes (`TailAt.skip`).

A text inside another is found by searching for it, and the search may stop
before the place that was meant: the inside of `!!(!)` is looked for behind the
first mark, and the second mark is found. This does no harm. What is found is an
occurrence, so its end is a place too, and what is left behind it is more than
what is left behind the one that was meant. So texts that stand one after the
other (`InOrder`) are all found if each is looked for from where the one before
it was found to end (`Holds.find`).

## Main definitions

* `Text.TailAt`: What is left of a text from an offset on.
* `Text.Boundary`: The offsets at which no character is cut in two.
* `Text.InOrder`: Texts that stand one after the other in a text.
* `Text.Holds`: Texts that do so from a place of the text on.

## Theorems

* `Text.boundary_iff_isValid`: Boundaries are the valid positions of strings.
* `Text.Holds.find`: Texts in order are found.
* `Text.Boundary.moved`: A place in a text that stands in another.
* `Text.suffix_of_closerIn`: What a scanner returns is the end of the text.
* `Text.inOrder_elements`: The elements of a list stand in order.
-/

namespace Reckon

namespace Text

section Places

variable {cs tail : List Char} {n : Nat}

/-- What is left of `cs` from byte `n` on is `tail`. -/
def TailAt (cs : List Char) (n : Nat) (tail : List Char) : Prop :=
  ∃ before, cs = before ++ tail ∧ width before = n

/-- A character of `cs` starts at byte `n`, or the text ends there. -/
def Boundary (cs : List Char) (n : Nat) : Prop :=
  ∃ tail, TailAt cs n tail

theorem TailAt.boundary (h : TailAt cs n tail) : Boundary cs n :=
  ⟨tail, h⟩

theorem tailAt_zero (cs : List Char) : TailAt cs 0 cs :=
  ⟨[], rfl, rfl⟩

/-- A text may stand behind any number of bytes. -/
theorem exists_tailAt (n : Nat) (tail : List Char) : ∃ cs, TailAt cs n tail := by
  refine ⟨List.replicate n 'a' ++ tail, List.replicate n 'a', rfl, ?_⟩
  induction n with
  | zero => rfl
  | succ n ih =>
      rw [List.replicate_succ, width_cons, ih]
      exact Nat.add_comm 1 n

/-- What is left of a text is left from one place on only. -/
theorem TailAt.unique {m : Nat} (h : TailAt cs n tail) (h' : TailAt cs m tail) : n = m := by
  rcases h with ⟨before, rfl, rfl⟩
  rcases h' with ⟨before', hcs, rfl⟩
  rw [List.append_cancel_right hcs]

/-- Characters are skipped by skipping their bytes. -/
theorem TailAt.skip {as bs : List Char} (h : TailAt cs n (as ++ bs)) :
    TailAt cs (n + width as) bs := by
  rcases h with ⟨before, rfl, rfl⟩
  exact ⟨before ++ as, (List.append_assoc before as bs).symm, width_append before as⟩

/-- What is left of a text reaches to its end. -/
theorem TailAt.add_width (h : TailAt cs n tail) : n + width tail = width cs := by
  rcases h with ⟨before, rfl, rfl⟩
  rw [width_append]

/-- A place in a text is not behind its end. -/
theorem Boundary.le_width (h : Boundary cs n) : n ≤ width cs := by
  rcases h with ⟨tail, before, rfl, rfl⟩
  rw [width_append]
  exact Nat.le_add_right _ _

/-- The end of a text is a place in it. -/
theorem TailAt.boundary_end (h : TailAt cs n tail) : Boundary cs (n + width tail) := by
  rw [← List.append_nil tail] at h
  exact h.skip.boundary

/-- A place in a text that stands in another is one in the other. -/
theorem Boundary.moved {inner after : List Char} {offset : Nat} (h : Boundary inner n)
    (hinner : TailAt cs offset (inner ++ after)) : Boundary cs (n + offset) := by
  rcases h with ⟨tail, before, rfl, rfl⟩
  rw [List.append_assoc] at hinner
  rw [Nat.add_comm]
  exact hinner.skip.boundary

/-- The bytes of a string. -/
theorem width_toList (s : String) : width s.toList = s.utf8ByteSize := by
  have hwidth : ∀ cs : List Char, width cs = (String.ofList cs).utf8ByteSize := by
    intro cs
    induction cs with
    | nil => rfl
    | cons c cs ih =>
        rw [width_cons, ih, String.ofList_cons, String.utf8ByteSize_append,
          String.utf8ByteSize_singleton]
  rw [hwidth, String.ofList_toList]

/-- The boundaries are the valid positions of the string. -/
theorem boundary_iff_isValid {text : String} :
    Boundary text.toList n ↔ String.Pos.Raw.IsValid text ⟨n⟩ := by
  rw [String.Pos.Raw.isValid_iff_exists_append]
  constructor
  · rintro ⟨tail, before, htext, rfl⟩
    refine ⟨String.ofList before, String.ofList tail, ?_, ?_⟩
    · rw [← String.ofList_append, ← htext, String.ofList_toList]
    · have hwidth := width_toList (String.ofList before)
      rw [String.toList_ofList] at hwidth
      exact String.Pos.Raw.ext hwidth
  · rintro ⟨before, tail, rfl, hn⟩
    refine ⟨tail.toList, before.toList, String.toList_append, ?_⟩
    rw [width_toList]
    exact (congrArg String.Pos.Raw.byteIdx hn).symm

end Places

section Search

/-- What is left from an offset on, where nothing is cut in two. -/
theorem dropBytes_append (before tail : List Char) :
    dropBytes (width before) (before ++ tail) = some tail := by
  induction before with
  | nil =>
      rw [width_nil, List.nil_append, dropBytes]
  | cons c before ih =>
      -- A character has at least one byte, so the offset is not zero.
      have hpos := c.utf8Size_pos
      rcases hn : width (c :: before) with _ | n
      · rw [width_cons] at hn
        omega
      · rw [width_cons] at hn
        rw [List.cons_append, dropBytes, if_pos (by omega), ← ih]
        congr 1
        omega

theorem TailAt.dropBytes_eq {cs tail : List Char} {n : Nat} (h : TailAt cs n tail) :
    dropBytes n cs = some tail := by
  rcases h with ⟨before, rfl, rfl⟩
  exact dropBytes_append before tail

/-- A text that occurs is found, where it is meant to be or before that. -/
theorem seek_append (needle before after : List Char) :
    ∃ before' after', seek needle (before ++ (needle ++ after)) = some (needle ++ after') ∧
      before ++ (needle ++ after) = before' ++ (needle ++ after') ∧ after <:+ after' := by
  induction before with
  | nil =>
      refine ⟨[], after, ?_, rfl, List.suffix_refl after⟩
      rw [List.nil_append]
      -- Only the empty text is found in what has no characters.
      rcases hcs : needle ++ after with _ | ⟨c, cs⟩
      · rw [seek, (List.append_eq_nil_iff.mp hcs).1]
        rfl
      · have hprefix : needle <+: c :: cs := hcs ▸ List.prefix_append needle after
        rw [seek, if_pos (List.isPrefixOf_iff_prefix.mpr hprefix)]
  | cons b before ih =>
      rw [List.cons_append, seek]
      split
      next hprefix =>
        -- Found at once, so more is left than was meant to be.
        rcases List.isPrefixOf_iff_prefix.mp hprefix with ⟨after', hafter⟩
        have hmeant : after <:+ b :: (before ++ (needle ++ after)) :=
          ⟨b :: (before ++ needle), by rw [List.cons_append, List.append_assoc]⟩
        have hfound : after' <:+ b :: (before ++ (needle ++ after)) := ⟨needle, hafter⟩
        have hlen := congrArg List.length hafter
        simp only [List.length_append, List.length_cons] at hlen
        refine ⟨[], after', by rw [hafter], by rw [hafter, List.nil_append], ?_⟩
        exact List.suffix_of_suffix_length_le hmeant hfound (by omega)
      next =>
        rcases ih with ⟨before', after', hseek, heq, hsuffix⟩
        exact ⟨b :: before', after', hseek, by rw [heq, List.cons_append], hsuffix⟩

/-- Texts that stand one after the other in a text. -/
def InOrder : List Char → List (List Char) → Prop
  | _, [] => True
  | cs, part :: parts => ∃ before after, cs = before ++ (part ++ after) ∧ InOrder after parts

/-- Texts in order in the end of a text are in order in the text. -/
theorem InOrder.of_suffix {cs cs' : List Char} {parts : List (List Char)} (h : InOrder cs parts)
    (hsuffix : cs <:+ cs') : InOrder cs' parts := by
  cases parts with
  | nil => trivial
  | cons part parts =>
      rcases h with ⟨before, after, rfl, h⟩
      rcases hsuffix with ⟨more, rfl⟩
      exact ⟨more ++ before, after, (List.append_assoc more before _).symm, h⟩

/-- Texts that stand in order in what is left of `cs` from byte `start` on. That a
    place is there is only said if there are any. -/
def Holds (cs : List Char) (start : Nat) (parts : List (List Char)) : Prop :=
  parts ≠ [] → ∃ tail, TailAt cs start tail ∧ InOrder tail parts

/-- The first of some texts in order is found by searching, and the others are
    in order behind it. -/
theorem Holds.find {cs part : List Char} {parts : List (List Char)} {start : Nat}
    (h : Holds cs start (part :: parts)) :
    ∃ after, TailAt cs (offsetOf cs start part) (part ++ after) ∧
      Holds cs (offsetOf cs start part + width part) parts := by
  rcases h (List.cons_ne_nil part parts) with ⟨tail, htail, before, after, rfl, horder⟩
  -- What is found may come before what was meant, so more is left behind it.
  rcases seek_append part before after with ⟨before', after', hseek, heq, hsuffix⟩
  have hoffset : offsetOf cs start part = start + width before' := by
    simp only [offsetOf, htail.dropBytes_eq, hseek]
    rw [heq, width_append, Nat.add_sub_cancel]
  rw [heq] at htail
  have hfound : TailAt cs (offsetOf cs start part) (part ++ after') := by
    rw [hoffset]
    exact htail.skip
  exact ⟨after', hfound, fun _ => ⟨after', hfound.skip, horder.of_suffix hsuffix⟩⟩

end Search

section Scanners

/-- What follows a quoted text is the end of the text. -/
theorem suffix_of_afterQuote {mayEscape : Char → Bool} {quote : Char} {cs tail : List Char}
    (h : afterQuote mayEscape quote cs = some tail) : tail <:+ cs := by
  fun_induction afterQuote mayEscape quote cs with
  | case1 => cases h
  | case2 => cases h
  | case3 c cs _ ih => exact ((ih h).trans (List.suffix_cons c cs)).trans (List.suffix_cons _ _)
  | case4 => cases h
  | case5 cs =>
      cases h
      exact List.suffix_cons _ _
  | case6 c cs _ _ _ ih => exact (ih h).trans (List.suffix_cons c cs)

/-- The text from the closer on is the end of the text. -/
theorem suffix_of_closerIn {closer : Char} {depth : Nat} {cs tail : List Char}
    (h : closerIn closer depth cs = some tail) : tail <:+ cs := by
  fun_induction closerIn closer depth cs with
  | case1 => cases h
  | case2 => cases h
  | case3 _ c cs _ rest hrest ih =>
      exact ((ih h).trans (suffix_of_afterQuote hrest)).trans (List.suffix_cons c cs)
  | case4 _ c cs _ _ ih => exact (ih h).trans (List.suffix_cons c cs)
  | case5 =>
      cases h
      exact List.suffix_refl _
  | case6 => cases h
  | case7 c cs _ _ _ _ ih => exact (ih h).trans (List.suffix_cons c cs)
  | case8 _ c cs _ _ _ ih => exact (ih h).trans (List.suffix_cons c cs)

/-- The text from the comma on is the end of the text. -/
theorem suffix_of_commaIn {depth : Nat} {cs tail : List Char}
    (h : commaIn depth cs = some tail) : tail <:+ cs := by
  fun_induction commaIn depth cs with
  | case1 => cases h
  | case2 => cases h
  | case3 _ c cs _ rest hrest ih =>
      exact ((ih h).trans (suffix_of_afterQuote hrest)).trans (List.suffix_cons c cs)
  | case4 _ c cs _ _ ih => exact (ih h).trans (List.suffix_cons c cs)
  | case5 _ c cs _ _ _ ih => exact (ih h).trans (List.suffix_cons c cs)
  | case6 =>
      cases h
      exact List.suffix_refl _
  | case7 _ c cs _ _ _ _ ih => exact (ih h).trans (List.suffix_cons c cs)

/-- A text is what stands before an end of it, and that end. -/
theorem upTo_append_of_suffix {cs tail : List Char} (h : tail <:+ cs) :
    upTo cs tail ++ tail = cs := by
  rcases h with ⟨before, rfl⟩
  unfold upTo
  rw [List.length_append, Nat.add_sub_cancel, List.take_left]

/-- Trimming takes off something before the text and something after it. -/
theorem exists_append_trim (cs : List Char) :
    ∃ before after, cs = before ++ (trim cs ++ after) := by
  rcases List.dropWhile_suffix (l := cs) isBlank with ⟨before, hstart⟩
  rcases List.dropWhile_suffix (l := (trimStart cs).reverse) isBlank with ⟨after, hend⟩
  refine ⟨before, after.reverse, ?_⟩
  have htrim : trim cs ++ after.reverse = trimStart cs := by
    rw [trim, trimEnd, ← List.reverse_append, hend, List.reverse_reverse]
  rw [htrim]
  exact hstart.symm

/-- The parts between commas stand one after the other. -/
theorem inOrder_splitCommas (cs : List Char) : InOrder cs (splitCommas cs) := by
  fun_induction splitCommas cs with
  | case1 cs comma tail hcomma ih =>
      -- The first part ends before the comma, and the others come after it.
      have hsuffix : comma :: tail <:+ cs := suffix_of_commaIn hcomma
      refine ⟨[], comma :: tail, (upTo_append_of_suffix hsuffix).symm, ?_⟩
      exact ih.of_suffix (List.suffix_cons comma tail)
  | case2 cs _ => exact ⟨[], [], (List.append_nil cs).symm, trivial⟩

/-- Texts in order stay in order when they are trimmed. -/
theorem InOrder.trim {cs : List Char} {parts : List (List Char)} (h : InOrder cs parts) :
    InOrder cs (parts.map Text.trim) := by
  induction parts generalizing cs with
  | nil => trivial
  | cons part parts ih =>
      rcases h with ⟨before, after, rfl, h⟩
      rcases exists_append_trim part with ⟨blank, blank', hpart⟩
      have hsplit : part ++ after = blank ++ (Text.trim part ++ (blank' ++ after)) := by
        rw [← List.append_assoc (Text.trim part), ← List.append_assoc blank, ← hpart]
      refine ⟨before ++ blank, blank' ++ after, ?_, (ih h).of_suffix (List.suffix_append _ _)⟩
      rw [hsplit, List.append_assoc]

/-- Texts in order stay in order when some of them are left out. -/
theorem InOrder.filter {cs : List Char} {parts : List (List Char)} (h : InOrder cs parts)
    (keep : List Char → Bool) : InOrder cs (parts.filter keep) := by
  induction parts generalizing cs with
  | nil => trivial
  | cons part parts ih =>
      rcases h with ⟨before, after, rfl, h⟩
      rw [List.filter_cons]
      split
      · exact ⟨before, after, rfl, ih h⟩
      · -- What is left out belongs to what stands before the others.
        refine (ih h).of_suffix ?_
        rw [← List.append_assoc]
        exact List.suffix_append _ _

/-- Texts in order stay in order when the text goes on. -/
theorem InOrder.append {cs : List Char} {parts : List (List Char)} (h : InOrder cs parts)
    (more : List Char) : InOrder (cs ++ more) parts := by
  induction parts generalizing cs with
  | nil => trivial
  | cons part parts ih =>
      rcases h with ⟨before, after, rfl, h⟩
      exact ⟨before, after ++ more, by simp only [List.append_assoc], ih h⟩

/-- The elements of a list stand one after the other in it. -/
theorem inOrder_elements (cs : List Char) : InOrder cs (elements cs) :=
  (inOrder_splitCommas cs).trim.filter _

/-- The trimmed text stands in the text. -/
theorem inOrder_trim (cs : List Char) : InOrder cs [trim cs] := by
  rcases exists_append_trim cs with ⟨before, after, hcs⟩
  exact ⟨before, after, hcs, trivial⟩

end Scanners

end Text

end Reckon
