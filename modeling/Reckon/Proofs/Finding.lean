import Reckon.Proofs.Scanning
import Reckon.Proofs.Trimming

/-!
# Finding Texts inside a Bracket

What stands inside a bracket is handed on as texts of their own: the inside of a
group, trimmed, and the elements of a list. Where they stand follows from how
they were cut out (`Text.trimmedAt`, `Text.elementsAt`). That is not how they are
placed, however: each is searched for, from where the one before it was found to
end (`Text.offsets`).

The search finds what was cut out as long as no other occurrence begins before
it (`Text.Clear`). Between two elements there is none, since only blanks and
commas stand there and no element starts with one of these. So once the first
element is found where it stands, all are (`Text.offsets_elements`). Before the
first one there may be more: the search begins behind the first byte of the
token, which is the first exclamation mark if there are any. An occurrence cannot
begin there and reach over the bracket (`Text.clear_of_not_infix`), as a text cut
out of the inside is level. It can lie among the exclamation marks
(`Text.offsetOf_le_of_infix`).

## Main definitions

* `Text.Clear`: No occurrence of a text begins in a stretch of another one.
* `Text.trimmedAt`, `Text.elementsAt`: Where the texts inside a bracket stand.
* `Text.offsets`: Where they are found.

## Theorems

* `Text.offsetOf_of_clear`: A text is found where it stands.
* `Text.clear_of_not_infix`: The stretch before a bracket.
* `Text.offsetOf_trim`, `Text.offsets_elements`: Groups and lists.
* `Text.offsetOf_le_of_infix`: A text that occurs before the bracket.
-/

namespace Reckon

namespace Text

section Search

variable {needle gap tail : List Char}

/-- No occurrence of `needle` begins in `gap`, if `tail` comes after it. -/
def Clear (needle gap tail : List Char) : Prop :=
  ∀ post, post ≠ [] → post <:+ gap → ¬ needle <+: post ++ tail

theorem clear_nil (needle tail : List Char) : Clear needle [] tail :=
  fun _ hne hpost => absurd (List.suffix_nil.mp hpost) hne

theorem Clear.append {gap' : List Char} (h : Clear needle gap (gap' ++ tail))
    (h' : Clear needle gap' tail) : Clear needle (gap ++ gap') tail := by
  rintro post hne ⟨pre, hpre⟩
  rcases List.append_eq_append_iff.mp hpre with ⟨as, rfl, rfl⟩ | ⟨bs, rfl, rfl⟩
  · rcases as with _ | ⟨a, as⟩
    · exact h' _ hne (List.suffix_refl _)
    · rw [List.append_assoc]
      exact h _ (List.cons_ne_nil a as) (List.suffix_append _ _)
  · exact h' post hne (List.suffix_append _ _)

/-- No occurrence begins where a character stands that `needle` does not start
    with. -/
theorem clear_of_head {c : Char} {cs : List Char} (h : ∀ d ∈ gap, d ≠ c) :
    Clear (c :: cs) gap tail := by
  intro post hne hpost hprefix
  rcases post with _ | ⟨d, post⟩
  · exact hne rfl
  · have hd := (List.cons_prefix_cons.mp hprefix).1
    exact h d (hpost.mem List.mem_cons_self) hd.symm

/-- Where no occurrence begins, searching goes on. -/
theorem seek_of_clear (h : Clear needle gap tail) :
    seek needle (gap ++ tail) = seek needle tail := by
  induction gap with
  | nil => rfl
  | cons c gap ih =>
      have hfirst : ¬ needle <+: c :: (gap ++ tail) :=
        h (c :: gap) (List.cons_ne_nil c gap) (List.suffix_refl _)
      rw [List.cons_append, seek, if_neg (mt List.isPrefixOf_iff_prefix.mp hfirst)]
      exact ih fun post hne hpost => h post hne (hpost.trans (List.suffix_cons c gap))

theorem seek_self (needle after : List Char) :
    seek needle (needle ++ after) = some (needle ++ after) := by
  rcases hcs : needle ++ after with _ | ⟨c, cs⟩
  · rw [seek, (List.append_eq_nil_iff.mp hcs).1]
    rfl
  · have hprefix : needle <+: c :: cs := hcs ▸ List.prefix_append needle after
    rw [seek, if_pos (List.isPrefixOf_iff_prefix.mpr hprefix)]

/-- A text is found where it stands if none of its occurrences begins before. -/
theorem offsetOf_of_clear {source after : List Char} {start : Nat}
    (h : TailAt source start (gap ++ (needle ++ after)))
    (hclear : Clear needle gap (needle ++ after)) :
    offsetOf source start needle = start + width gap := by
  simp only [offsetOf, h.dropBytes_eq, seek_of_clear hclear, seek_self]
  rw [width_append, Nat.add_sub_cancel]

/-- A text that occurs is found no later than it occurs. -/
theorem offsetOf_le_of_infix {source : List Char} {start : Nat}
    (h : TailAt source start (gap ++ tail)) (hoccurs : needle <:+: gap) :
    offsetOf source start needle + width needle ≤ start + width gap := by
  rcases hoccurs with ⟨before, after, rfl⟩
  simp only [List.append_assoc] at h
  rcases seek_append needle before (after ++ tail) with ⟨before', after', hseek, heq, hsuffix⟩
  rcases hsuffix with ⟨more, rfl⟩
  simp only [offsetOf, h.dropBytes_eq, hseek]
  have hwidth := congrArg width heq
  simp only [width_append] at hwidth ⊢
  omega

/-- Where the texts `needles` are found in `source`: the first from byte `start`
    on, each of the others from the end of the one before it on. -/
def offsets (source : List Char) : Nat → List (List Char) → List Nat
  | _, [] => []
  | start, needle :: needles =>
    offsetOf source start needle ::
      offsets source (offsetOf source start needle + width needle) needles

end Search

section Places

/-- The byte at which the trimmed text starts, in a text that starts at byte `n`. -/
def trimmedAt (n : Nat) (cs : List Char) : Nat := n + width (leading cs)

/-- Where the trimmed parts start, if the first part starts at byte `n` and there
    is one byte, a comma, between each two. Parts of which nothing is left are
    left out. -/
def elementsAt : Nat → List (List Char) → List Nat
  | _, [] => []
  | n, part :: parts =>
    if (trim part).isEmpty then elementsAt (n + width part + 1) parts
    else trimmedAt n part :: elementsAt (n + width part + 1) parts

theorem le_of_mem_elementsAt {n m : Nat} {parts : List (List Char)} (h : m ∈ elementsAt n parts) :
    n ≤ m := by
  induction parts generalizing n with
  | nil => cases h
  | cons part parts ih =>
      rw [elementsAt] at h
      split at h
      · exact Nat.le_trans (by omega) (ih h)
      · rcases List.mem_cons.mp h with rfl | h
        · exact Nat.le_add_right _ _
        · exact Nat.le_trans (by omega) (ih h)

end Places

section Commas

/-- Looking for a comma, character by character. -/
theorem commaIn_cons (depth : Nat) (c : Char) (cs : List Char) :
    commaIn depth (c :: cs) =
      if isQuote c then (afterQuoted c cs).bind (commaIn depth)
      else if isOpener c then commaIn (depth + 1) cs
      else if isCloser c then commaIn (depth - 1) cs
      else if c = ',' ∧ depth = 0 then some (c :: cs)
      else commaIn depth cs := by
  rw [commaIn.eq_def]
  simp only
  split
  · split
    next h => simp only [h, Option.bind_none]
    next tail h => simp only [h, Option.bind_some]
  · rfl

theorem commaIn_plain {c : Char} (hplain : isPlain c = true) (depth : Nat) (cs : List Char) :
    commaIn depth (c :: cs) =
      if c = ',' ∧ depth = 0 then some (c :: cs) else commaIn depth cs := by
  rcases isPlain_iff.mp hplain with ⟨hquote, hopen, hclose⟩
  rw [commaIn_cons, hquote, hopen, hclose]
  rfl

/-- Blanks are no commas. -/
theorem commaIn_blank {blank : List Char} (h : ∀ c ∈ blank, isBlank c = true) (depth : Nat)
    (rest : List Char) : commaIn depth (blank ++ rest) = commaIn depth rest := by
  induction blank with
  | nil => rfl
  | cons c blank ih =>
      have hc := h c List.mem_cons_self
      have hne : c ≠ ',' := by
        rintro rfl
        exact absurd hc (by decide)
      rw [List.cons_append, commaIn_plain (isPlain_of_isBlank hc),
        if_neg fun hcomma => hne hcomma.1]
      exact ih fun d hd => h d (List.mem_cons_of_mem c hd)

/-- Behind blanks, a comma is found at once. -/
theorem commaIn_blank_comma {blank : List Char} (h : ∀ c ∈ blank, isBlank c = true)
    (rest : List Char) : commaIn 0 (blank ++ ',' :: rest) = some (',' :: rest) := by
  rw [commaIn_blank h, commaIn_plain rfl]
  rfl

/-- In a text that starts with a comma once it is trimmed, that comma is found. -/
theorem exists_commaIn_of_trim {part rest : List Char} (h : trim part = ',' :: rest)
    (more : List Char) :
    ∃ after, commaIn 0 (part ++ more) = some (',' :: (after ++ more)) := by
  refine ⟨rest ++ trailing part, ?_⟩
  rw [append_eq_trim, h, List.append_assoc rest]
  exact commaIn_blank_comma (fun _ => isBlank_of_mem_leading) _

/-- No part of a text that was cut at its commas starts with one. -/
theorem ne_comma_of_mem_splitCommas {cs part rest : List Char} {c : Char}
    (hpart : part ∈ splitCommas cs) (h : trim part = c :: rest) : c ≠ ',' := by
  rintro rfl
  induction cs using splitCommas_induction with
  | last cs hnone =>
      rw [splitCommas_of_none hnone, List.mem_singleton] at hpart
      subst hpart
      rcases exists_commaIn_of_trim h [] with ⟨after, hfound⟩
      rw [List.append_nil, hnone] at hfound
      cases hfound
  | more first tail hcomma ih =>
      rw [splitCommas_of_comma hcomma] at hpart
      rcases List.mem_cons.mp hpart with rfl | hpart
      · -- The comma would have been found before the one at the end of the part.
        rcases exists_commaIn_of_trim h (',' :: tail) with ⟨after, hfound⟩
        rw [hcomma, Option.some.injEq, List.cons.injEq] at hfound
        have hlen := congrArg List.length hfound.2
        simp only [List.length_append, List.length_cons] at hlen
        omega
      · exact ih hpart

/-- An element starts with a character that is neither blank nor a comma. -/
theorem head_of_mem_elements {cs e : List Char} (h : e ∈ elements cs) :
    ∃ c rest, e = c :: rest ∧ isBlank c = false ∧ c ≠ ',' := by
  rcases List.mem_filter.mp h with ⟨hmem, hne⟩
  rcases List.mem_map.mp hmem with ⟨part, hpart, rfl⟩
  rcases htrim : trim part with _ | ⟨c, rest⟩
  · rw [htrim] at hne
    cases hne
  · exact ⟨c, rest, rfl, head_trim htrim, ne_comma_of_mem_splitCommas hpart htrim⟩

/-- The elements of a list, given its parts. -/
theorem elements_of_parts {cs part : List Char} {parts : List (List Char)}
    (h : splitCommas cs = part :: parts) :
    elements cs = if (trim part).isEmpty then (parts.map trim).filter (!·.isEmpty)
      else trim part :: (parts.map trim).filter (!·.isEmpty) := by
  rw [elements, h, List.map_cons, List.filter_cons]
  cases (trim part).isEmpty <;> rfl

end Commas

section Bracket

variable {source inside gap rest : List Char} {start : Nat}

/-- No occurrence of a trimmed text begins in its leading blanks. -/
theorem clear_leading (cs tail : List Char) : Clear (trim cs) (leading cs) tail := by
  rcases htrim : trim cs with _ | ⟨c, rest⟩
  · rw [leading, if_pos (trim_eq_nil.mp htrim)]
    exact clear_nil [] tail
  · refine clear_of_head fun d hd heq => ?_
    have hblank := isBlank_of_mem_leading hd
    rw [heq, head_trim htrim] at hblank
    cases hblank

/-- No occurrence of an element begins in the blanks and the comma before it. -/
theorem clear_comma {cs blank e : List Char} {es : List (List Char)} (he : elements cs = e :: es)
    (hblank : ∀ c ∈ blank, isBlank c = true) (tail : List Char) :
    Clear e (blank ++ [',']) tail := by
  rcases head_of_mem_elements (he ▸ List.mem_cons_self) with ⟨c, rest, rfl, hc, hcomma⟩
  refine clear_of_head fun d hd => ?_
  rcases List.mem_append.mp hd with hd | hd
  · rintro rfl
    rw [hblank d hd] at hc
    cases hc
  · rw [List.mem_singleton.mp hd]
    exact hcomma.symm

/-- The trimmed inside of a bracket stands at its place. -/
theorem tailAt_trimmedAt (h : TailAt source start (inside ++ rest)) :
    TailAt source (trimmedAt start inside) (trim inside ++ (trailing inside ++ rest)) := by
  rw [append_eq_trim] at h
  exact h.skip

/-- The elements of a list stand at their places. -/
theorem tailAt_elementsAt (h : TailAt source start (inside ++ rest)) :
    List.Forall₂ (fun n e => ∃ after, TailAt source n (e ++ after))
      (elementsAt start (splitCommas inside)) (elements inside) := by
  -- Each part begins one byte behind the comma that ended the one before.
  induction inside using splitCommas_induction generalizing start with
  | last cs hnone =>
      have hparts := splitCommas_of_none hnone
      rw [elements_of_parts hparts, hparts, elementsAt]
      split
      · exact .nil
      · exact .cons ⟨_, tailAt_trimmedAt h⟩ .nil
  | more part tail hcomma ih =>
      have hparts := splitCommas_of_comma hcomma
      have hcommaWidth : width [','] = 1 := rfl
      rw [List.append_assoc] at h
      have hrest : TailAt source (start + width part + 1) (tail ++ rest) := by
        have hskip : TailAt source (start + width part) ([','] ++ (tail ++ rest)) := h.skip
        rw [← hcommaWidth]
        exact hskip.skip
      rw [elements_of_parts hparts, hparts, elementsAt, ← elements]
      split
      · exact ih hrest
      · exact .cons ⟨_, tailAt_trimmedAt h⟩ (ih hrest)

/-- The trimmed inside of a bracket is found where it stands. -/
theorem offsetOf_trim (h : TailAt source start (gap ++ (inside ++ rest)))
    (hclear : Clear (trim inside) gap (inside ++ rest)) :
    offsetOf source start (trim inside) = trimmedAt (start + width gap) inside := by
  rw [append_eq_trim inside] at hclear h
  rw [← List.append_assoc] at h
  rw [offsetOf_of_clear h (hclear.append (clear_leading inside _)), width_append, trimmedAt,
    Nat.add_assoc]

/-- The elements of a list are found where they stand, if the first one is. -/
theorem offsets_elements (h : TailAt source start (gap ++ (inside ++ rest)))
    (hclear : ∀ e es, elements inside = e :: es → Clear e gap (inside ++ rest)) :
    offsets source start (elements inside) =
      elementsAt (start + width gap) (splitCommas inside) := by
  induction inside using splitCommas_induction generalizing start gap with
  | last cs hnone =>
      have hparts := splitCommas_of_none hnone
      have helements := elements_of_parts hparts
      rw [hparts, elementsAt]
      split at helements
      next hempty =>
        rw [helements, if_pos hempty]
        rfl
      next hempty =>
        rw [helements, if_neg hempty]
        exact congrArg (· :: []) (offsetOf_trim h (hclear _ _ helements))
  | more part tail hcomma ih =>
      have hparts := splitCommas_of_comma hcomma
      have helements := elements_of_parts hparts
      rw [← elements] at helements
      rw [List.append_assoc, List.cons_append] at h hclear
      rw [hparts, elementsAt]
      split at helements
      next hempty =>
        -- The part is blank, and the search goes on behind the comma.
        have hblank := allBlank_iff.mp (trim_eq_nil.mp (List.isEmpty_iff.mp hempty))
        have hrest : TailAt source start (gap ++ (part ++ [',']) ++ (tail ++ rest)) := by
          simpa only [List.append_assoc, List.cons_append, List.nil_append] using h
        rw [helements] at hclear
        rw [helements, if_pos hempty, ih hrest]
        · simp only [width_append, Nat.add_assoc]
          rfl
        · intro e es he
          refine Clear.append ?_ (clear_comma he hblank _)
          simpa only [List.append_assoc, List.cons_append, List.nil_append] using hclear e es he
      next hempty =>
        -- The element is found, and the next one is looked for behind it.
        have hfirst := offsetOf_trim h (hclear _ _ helements)
        have hrest : TailAt source (trimmedAt (start + width gap) part + width (trim part))
            (trailing part ++ [','] ++ (tail ++ rest)) := by
          have hpart := h.skip
          rw [append_eq_trim part] at hpart
          simpa only [trimmedAt, List.append_assoc, List.cons_append, List.nil_append] using
            hpart.skip.skip
        have hcomma : width [','] = 1 := rfl
        have hwidth := congrArg width (leading_trim_trailing part)
        rw [width_append, width_append] at hwidth
        rw [helements, if_neg hempty, offsets, hfirst, ih hrest fun e es he =>
          clear_comma he (fun _ => isBlank_of_mem_trailing) _]
        have hnext : trimmedAt (start + width gap) part + width (trim part) +
            width (trailing part ++ [',']) = start + width gap + width part + 1 := by
          rw [trimmedAt, width_append, hcomma]
          omega
        rw [hnext]

/-- Before a bracket, no occurrence of a text cut out of its inside begins, unless
    it ends there as well. -/
theorem clear_of_not_infix {marks part : List Char} {opener : Char}
    (hopener : isOpener opener = true) (hmarks : ∀ c ∈ marks, isPlain c = true)
    (hinside : Level inside) (hpart : Level part) (hlen : (trim part).length ≤ inside.length)
    (hoccurs : ¬ trim part <:+: marks) :
    Clear (trim part) (marks ++ [opener]) (inside ++ rest) := by
  rintro post hne ⟨pre, hpre⟩ hprefix
  -- Behind `pre` stand some of the marks and the bracket.
  have hpost : ∃ m, marks = pre ++ m ∧ post = m ++ [opener] := by
    rcases List.append_eq_append_iff.mp hpre with ⟨m, hm⟩ | ⟨m, rfl, hm⟩
    · exact ⟨m, hm⟩
    · rcases m with _ | ⟨d, m⟩
      · exact ⟨[], by simp only [List.append_nil], hm.symm⟩
      · have hlast := (List.cons.inj hm).2
        exact absurd (List.append_eq_nil_iff.mp hlast.symm).2 hne
  rcases hpost with ⟨m, rfl, rfl⟩
  rcases Nat.lt_or_ge m.length (trim part).length with hlong | hshort
  · -- The occurrence would reach over the bracket and take part of the inside.
    have hbracket : m ++ [opener] <+: trim part :=
      List.prefix_of_prefix_length_le (List.prefix_append _ _) hprefix
        (by rw [List.length_append]; exact hlong)
    rcases hbracket with ⟨x, hx⟩
    rw [← hx, List.prefix_append_right_inj] at hprefix
    have hxlen := congrArg List.length hx
    simp only [List.length_append, List.length_singleton] at hxlen
    rcases List.prefix_of_prefix_length_le hprefix (List.prefix_append inside rest) (by omega) with
      ⟨y, rfl⟩
    have hsplit : Level (leading part ++ m ++ opener :: (x ++ trailing part)) := by
      rw [← leading_trim_trailing part, ← hx] at hpart
      simpa only [List.append_assoc, List.cons_append, List.nil_append] using hpart
    refine Level.not_opener_prefix hopener (fun c hc => ?_)
      (fun c hc => isPlain_of_isBlank (isBlank_of_mem_trailing hc)) hinside hsplit
    rcases List.mem_append.mp hc with hc | hc
    · exact isPlain_of_isBlank (isBlank_of_mem_leading hc)
    · exact hmarks c (List.mem_append_right _ hc)
  · -- Or it would lie among the marks.
    rw [List.append_assoc] at hprefix
    have hm : trim part <+: m :=
      List.prefix_of_prefix_length_le hprefix (List.prefix_append _ _) hshort
    exact hoccurs (hm.isInfix.trans (List.suffix_append pre m).isInfix)

end Bracket

end Text

end Reckon
