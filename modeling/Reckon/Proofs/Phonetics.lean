import Reckon.Match.Soundex

/-!
# Phonetic Codes Stage by Stage

`Soundex.code` reads a text once. It carries along the group of the last letter, passes
over `H` and `W`, stops when it has three digits and fills up with zeros if the text ends
before. The rule that it follows is told in stages, each over the whole text: the letters,
those of them that sound, their groups, the groups that differ from the one directly
before, and of these the first three that are not zero.

Both are the same (`Soundex.code_eq_staged`). One induction shows it, for any group before
the text and any number of digits still needed (`Soundex.digits_eq`): a group that is
equal to the last one is dropped by either, and so is zero, but zero counts as the last
group all the same.

In stages it is plain what the code of a text does not depend on. Case and what is no
letter are gone after the first stage, and `H` and `W` after the second, unless one of
them is the first letter.

## Main definitions

* `Soundex.isSilent`: The letters that count as absent.
* `Soundex.groups`: The groups of the letters that sound.
* `Soundex.changes`: The groups that differ from the one directly before.
* `Soundex.staged`: The code of a text, stage by stage.

## Theorems

* `Soundex.digits_eq`: The digits that one reading finds.
* `Soundex.code_eq_staged`: The code of every text.
-/

namespace Reckon

namespace Soundex

/-- Whether a letter counts as absent behind the first one. -/
def isSilent (c : Char) : Bool := c == 'H' || c == 'W'

/-- The groups of the letters that sound. -/
def groups (letters : List Char) : List Char :=
  (letters.filter fun c => !isSilent c).map digit

/-- The groups that differ from the one directly before them, which is `last` for the
    first of them. -/
def changes (last : Char) (groups : List Char) : List Char :=
  (((last :: groups).zip groups).filter fun pair => pair.2 != pair.1).map Prod.snd

/-- The groups that are written into a code. -/
def written (last : Char) (groups : List Char) : List Char :=
  (changes last groups).filter (· != '0')

/-- The code of a text, stage by stage: its first letter and the first three of the groups
    to be written, filled up with zeros. -/
def staged (cs : List Char) : List Char :=
  match (cs.filter Char.isAlpha).map Char.toUpper with
  | [] => []
  | first :: rest =>
    first :: (written (digit first) (groups rest) ++ List.replicate 3 '0').take 3

@[simp] theorem groups_cons (c : Char) (cs : List Char) :
    groups (c :: cs) = if isSilent c then groups cs else digit c :: groups cs := by
  by_cases h : isSilent c <;> simp [groups, h]

@[simp] theorem groups_append (cs ds : List Char) :
    groups (cs ++ ds) = groups cs ++ groups ds := by
  simp only [groups, List.filter_append, List.map_append]

@[simp] theorem written_nil (last : Char) : written last [] = [] := rfl

/-- A group is written if it differs from the last one and is not zero. It is the last one
    for those behind it in any case. -/
theorem written_cons (last d : Char) (ds : List Char) :
    written last (d :: ds) =
      if d ≠ '0' ∧ d ≠ last then d :: written d ds else written d ds := by
  by_cases hlast : d = last <;> by_cases hzero : d = '0' <;>
    simp [written, changes, hlast, hzero]
  -- Zero is not the last group, and no digit.
  all_goals simp_all

/-- One reading finds the first of the groups that are to be written, as many as are needed,
    and zeros if there are too few of them. -/
theorem digits_eq (last : Char) (room : Nat) (cs : List Char) :
    digits last room cs =
      (written last (groups cs) ++ List.replicate room '0').take room := by
  induction cs generalizing last room with
  | nil => simp [digits, groups]
  | cons c cs ih =>
      cases room with
      | zero => simp [digits]
      | succ room =>
          by_cases hsilent : c = 'H' ∨ c = 'W'
          · -- A silent letter is passed over, and the last group stays.
            have hfilter : isSilent c = true := by simpa [isSilent] using hsilent
            rw [digits, if_pos hsilent, ih, groups_cons, if_pos hfilter]
          · have hfilter : ¬ isSilent c = true := by simpa [isSilent] using hsilent
            rw [digits, if_neg hsilent, groups_cons, if_neg hfilter, written_cons]
            simp only
            by_cases hwritten : digit c ≠ '0' ∧ digit c ≠ last
            · -- One zero more at the end makes no difference within the room that is left.
              have hzeros (ds : List Char) : (ds ++ List.replicate (room + 1) '0').take room =
                  (ds ++ List.replicate room '0').take room := by
                rw [List.replicate_succ', ← List.append_assoc,
                  List.take_append_of_le_length (by simp)]
              rw [if_pos hwritten, if_pos hwritten, ih, List.cons_append, List.take_succ_cons,
                hzeros]
            · rw [if_neg hwritten, if_neg hwritten, ih]

/-- In upper case a letter is still a letter, and nothing else is one. -/
theorem isAlpha_toUpper (c : Char) : c.toUpper.isAlpha = c.isAlpha := by
  have halpha (c : Char) : c.isAlpha =
      (decide (c.val ≥ 'A'.val ∧ c.val ≤ 'Z'.val) ||
        decide (c.val ≥ 'a'.val) && decide (c.val ≤ 'z'.val)) := rfl
  unfold Char.toUpper
  split
  next hlower =>
    rw [halpha, halpha]
    grind
  next => rfl

/-- The letters of a text in upper case are those of the text in upper case. -/
theorem letters_eq (cs : List Char) : letters cs = (cs.map Char.toUpper).filter Char.isAlpha := by
  have halpha : Char.isAlpha ∘ Char.toUpper = Char.isAlpha := funext isAlpha_toUpper
  rw [letters, List.filter_map, halpha]

theorem isDigit_digit (c : Char) : (digit c).isDigit = true := by
  unfold digit
  repeat (split; · decide)
  decide

/-- Every group that is written is a digit. -/
theorem isDigit_of_mem_written {last d : Char} {cs : List Char}
    (h : d ∈ written last (groups cs)) : d.isDigit = true := by
  have hmem : d ∈ groups cs := by
    rcases List.mem_map.mp (List.mem_filter.mp h).1 with ⟨⟨before, d'⟩, hpair, rfl⟩
    exact (List.of_mem_zip (List.mem_filter.mp hpair).1).2
  rcases List.mem_map.mp hmem with ⟨c, _, rfl⟩
  exact isDigit_digit c

/-- The code of a text depends on its first letter and on the groups behind it. -/
theorem code_of_letters {cs rest : List Char} {first : Char} (h : letters cs = first :: rest) :
    code cs =
      first :: (written (digit first) (groups rest) ++ List.replicate 3 '0').take 3 := by
  rw [code, h]
  simp only
  rw [digits_eq]

/-- A silent letter behind the first letter makes no difference. -/
theorem code_insert_silent {before after : List Char} {c : Char} (hc : isSilent c.toUpper = true)
    (hfirst : ∃ d ∈ before, d.isAlpha = true) :
    code (before ++ c :: after) = code (before ++ after) := by
  -- There is a first letter in front of it, so it is among those that are taken by their groups.
  rcases hfirst with ⟨d, hd, halpha⟩
  have hmem : d.toUpper ∈ letters before :=
    List.mem_map_of_mem (List.mem_filter.mpr ⟨hd, halpha⟩)
  rcases List.exists_cons_of_ne_nil (List.ne_nil_of_mem hmem) with ⟨first, rest, hbefore⟩
  have hletters (tail : List Char) :
      letters (before ++ tail) = first :: (rest ++ letters tail) := by
    rw [← List.cons_append, ← hbefore]
    simp [letters]
  have hsilent : groups (letters (c :: after)) = groups (letters after) := by
    by_cases h : c.isAlpha = true
    · simp [letters, h, hc]
    · simp [letters, h]
  rw [code_of_letters (hletters (c :: after)), code_of_letters (hletters after), groups_append,
    groups_append, hsilent]

/-- The code of a text is what the stages make of it: nothing if there is no letter, and
    otherwise the first letter and three digits, where vowels and `Y` have the group zero. It
    does not depend on case, on what is no letter, or on a silent letter behind the first
    one. -/
theorem code_eq_staged (cs : List Char) :
    code cs = staged cs ∧
      (∀ c ∈ ['A', 'E', 'I', 'O', 'U', 'Y'], digit c = '0') ∧
      (code cs = [] ↔ ∀ c ∈ cs, c.isAlpha = false) ∧
      (∀ first ∈ (cs.find? Char.isAlpha), ∃ ds, code cs = first.toUpper :: ds ∧ ds.length = 3 ∧
        ∀ d ∈ ds, d.isDigit = true) ∧
      (∀ ds, ds.map Char.toUpper = cs.map Char.toUpper → code ds = code cs) ∧
      (∀ ds, ds.filter Char.isAlpha = cs.filter Char.isAlpha → code ds = code cs) ∧
      (∀ before after c, cs = before ++ after → isSilent c.toUpper = true →
        (∃ d ∈ before, d.isAlpha = true) → code (before ++ c :: after) = code cs) := by
  have hstaged : code cs = staged cs := by
    rw [staged, ← letters]
    cases hletters : letters cs with
    | nil => simp [code, hletters]
    | cons first rest => exact code_of_letters hletters
  refine ⟨hstaged, by simp [digit], ?_, fun first hfirst => ?_, fun ds hds => ?_,
    fun ds hds => ?_, ?_⟩
  · -- Only a text without letters has no first letter.
    have hnone : letters cs = [] ↔ ∀ c ∈ cs, c.isAlpha = false := by
      simp [letters, List.filter_eq_nil_iff]
    rw [← hnone, code]
    cases letters cs <;> simp
  · rcases List.find?_eq_some_iff_append.mp hfirst with ⟨halpha, before, after, rfl, hbefore⟩
    have hletters : letters (before ++ first :: after) = first.toUpper :: letters after := by
      have hnil : before.filter Char.isAlpha = [] :=
        List.filter_eq_nil_iff.mpr fun c hc => by simpa using hbefore c hc
      simp [letters, hnil, halpha]
    refine ⟨_, code_of_letters hletters, by simp, fun d hd => ?_⟩
    -- A digit was written for a letter, or it is one of the zeros that fill the code.
    rcases List.mem_append.mp (List.mem_of_mem_take hd) with hd | hd
    · exact isDigit_of_mem_written hd
    · rw [List.eq_of_mem_replicate hd]
      decide
  · rw [code, code, letters_eq, letters_eq, hds]
  · rw [code, code, letters, letters, hds]
  · rintro before after c rfl hc hfirst
    exact code_insert_silent hc hfirst

end Soundex

end Reckon
