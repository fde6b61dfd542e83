import Reckon.Pattern.Parser
import Reckon.Proofs.PatternEnding

/-!
# Readers of Counts, Groups and Escapes

The readers of a notation are put together from a few that take characters. What an ending
does to each of them follows from what it does to these (`Pattern.Steady`).

Two need care. A comment may go to the end behind any character, so that characters of one
kind are not always taken as before (`Pattern.steady_take`). The letters of the flags end at
a mark that is left to be read, and this may be the parenthesis of the ending; that is why
they are looked at together with the mark (`Pattern.flagsTo?`).

## Theorems

* `Pattern.steady_take`, `Pattern.steady_takeTo`: Characters of one kind.
* `Pattern.steady_counts`: The counts of a repetition.
* `Pattern.steady_enter`: The beginning of a group.
* `Pattern.steady_escape`: An escape.
-/

namespace Reckon

namespace Pattern

/-! ### Characters of one kind -/

namespace Flags

variable (flags : Flags) {kind : Char → Bool}

/-- Texts are taken apart character by character, with what is skipped behind each. -/
theorem skipping_induction {motive : List Char → Prop} (nil : motive [])
    (cons : ∀ c cs, motive (flags.skip cs) → motive (c :: cs)) (cs : List Char) : motive cs := by
  induction hlength : cs.length using Nat.strongRecOn generalizing cs with
  | ind n ih =>
      cases cs with
      | nil => exact nil
      | cons c cs =>
          have hle := flags.length_skip_le cs
          rw [List.length_cons] at hlength
          exact cons c cs (ih _ (by omega) _ rfl)

theorem take_cons_of_pos {c : Char} (hc : kind c = true) (cs : List Char) :
    flags.take kind (c :: cs) =
      (c :: (flags.take kind (flags.skip cs)).1, (flags.take kind (flags.skip cs)).2) := by
  rw [Flags.take, if_pos hc]

theorem take_cons_of_neg {c : Char} (hc : ¬ kind c = true) (cs : List Char) :
    flags.take kind (c :: cs) = ([], c :: cs) := by
  rw [Flags.take, if_neg hc]

theorem take_nil : flags.take kind [] = ([], []) := by
  rw [Flags.take]

theorem suffix_take (cs : List Char) : (flags.take kind cs).2 <:+ cs := by
  induction cs using flags.skipping_induction with
  | nil =>
      rw [take_nil]
  | cons c cs ih =>
      by_cases hc : kind c = true
      · rw [flags.take_cons_of_pos hc]
        exact (ih.trans (flags.suffix_skip cs)).trans (List.suffix_cons c cs)
      · rw [flags.take_cons_of_neg hc]

/-- Where characters of one kind stop inside a text, an ending makes no difference. Where they
    go to its end, they may go on in the ending. -/
theorem take_append (kind : Char → Bool) (cs : List Char) {w : List Char} (he : Ending w) :
    ((flags.take kind cs).2 ≠ [] →
      flags.take kind (cs ++ w) = ((flags.take kind cs).1, (flags.take kind cs).2 ++ w)) ∧
    ((flags.take kind cs).2 = [] → (flags.take kind (cs ++ w)).2 <:+ w) := by
  -- Blanks may be skipped between two characters, so the induction follows the skipping.
  induction cs using flags.skipping_induction with
  | nil =>
      rw [take_nil]
      exact ⟨fun h => absurd rfl h, fun _ => flags.suffix_take w⟩
  | cons c cs ih =>
      by_cases hc : kind c = true
      · rw [List.cons_append, flags.take_cons_of_pos hc, flags.take_cons_of_pos hc]
        rcases flags.skip_append cs with hkept | ⟨hnil, hhidden⟩
        · rw [hkept w he]
          refine ⟨fun h => ?_, ih.2⟩
          rw [ih.1 h]
        · rw [hnil, hhidden w he, take_nil]
          exact ⟨fun h => absurd rfl h, fun _ => List.nil_suffix⟩
      · rw [List.cons_append, flags.take_cons_of_neg hc, flags.take_cons_of_neg hc]
        exact ⟨fun _ => rfl, fun h => by cases h⟩

end Flags

/-- The characters of one kind at the start of a text, where the parenthesis of an ending is
    not of that kind. -/
theorem steady_take (flags : Flags) (kind : Char → Bool) (hkind : ¬ kind ')' = true) :
    Steady fun cs => some (flags.take kind cs) where
  suffix := by
    intro cs taken rest h
    have hrest : (flags.take kind cs).2 = rest := congrArg Prod.snd (Option.some.inj h)
    exact hrest ▸ flags.suffix_take cs
  behind cs := by
    induction cs using flags.skipping_induction with
    | nil =>
        refine .kept [] [] (by rw [Flags.take_nil]) fun w he => ?_
        rcases he with ⟨v, rfl, _⟩
        rw [List.nil_append, flags.take_cons_of_neg hkind]
    | cons c cs ih =>
        by_cases hc : kind c = true
        · rcases flags.skip_append cs with hkept | ⟨hnil, hhidden⟩
          · have hmap := ih.bind (g := fun taken cs => some (c :: taken, cs))
              (fun a rest _ => (Steady.pure _).behind rest) fun h => (Steady.pure _).suffix h
            refine hmap.of_eq ?_ fun w he => ?_
            · rw [flags.take_cons_of_pos hc]
              rfl
            · rw [List.cons_append, flags.take_cons_of_pos hc, hkept w he]
              rfl
          · refine .hidden [c] ?_ fun w he => ?_
            · rw [flags.take_cons_of_pos hc, hnil, Flags.take_nil]
            · rw [List.cons_append, flags.take_cons_of_pos hc, hhidden w he, Flags.take_nil]
        · refine .kept [] (c :: cs) (by rw [flags.take_cons_of_neg hc]) fun w _ => ?_
          rw [List.cons_append, flags.take_cons_of_neg hc]

/-- Characters of one kind up to a mark that closes them. -/
def takeTo? (flags : Flags) (kind : Char → Bool) (close : Char) (cs : List Char) :
    Option (List Char × List Char) :=
  match flags.take kind cs with
  | (taken, c :: rest) => if c = close then some (taken, rest) else none
  | (_, []) => none

section TakeTo

variable {flags : Flags} {kind : Char → Bool} {cs taken rest : List Char}

theorem takeTo?_of_nil (close : Char) (h : flags.take kind cs = (taken, [])) :
    takeTo? flags kind close cs = none := by
  rw [takeTo?, h]

theorem takeTo?_of_cons (close : Char) {c : Char} (h : flags.take kind cs = (taken, c :: rest)) :
    takeTo? flags kind close cs = if c = close then some (taken, rest) else none := by
  rw [takeTo?, h]

end TakeTo

/-- Characters up to a mark that is in no ending, whether or not the parenthesis is of their
    kind. -/
theorem steady_takeTo (flags : Flags) (kind : Char → Bool) (close : Char)
    (hclose : close ≠ ')' ∧ close ≠ '$') : Steady (takeTo? flags kind close) where
  suffix := by
    intro cs taken rest h
    have hsuffix : (flags.take kind cs).2 <:+ cs := flags.suffix_take cs
    rcases htake : flags.take kind cs with ⟨taken', _ | ⟨c, rest'⟩⟩
    · rw [takeTo?_of_nil close htake] at h
      cases h
    · rw [takeTo?_of_cons close htake] at h
      rw [htake] at hsuffix
      by_cases hc : c = close
      · rw [if_pos hc] at h
        cases h
        exact (List.suffix_cons c _).trans hsuffix
      · rw [if_neg hc] at h
        cases h
  behind cs := by
    rcases htake : flags.take kind cs with ⟨taken, _ | ⟨c, rest⟩⟩
    · refine .failed (takeTo?_of_nil close htake) fun w he a rest h => ?_
      -- No mark closes in an ending.
      have hsuffix := (flags.take_append kind cs he).2 (by rw [htake])
      rcases htake' : flags.take kind (cs ++ w) with ⟨taken', _ | ⟨c, rest'⟩⟩
      · rw [takeTo?_of_nil close htake'] at h
        cases h
      · rw [takeTo?_of_cons close htake'] at h
        rw [htake'] at hsuffix
        have hc : c ≠ close := by
          rintro rfl
          exact he.not_mem hclose (hsuffix.subset List.mem_cons_self)
        rw [if_neg hc] at h
        cases h
    · have hbehind (w : List Char) (he : Ending w) :
          flags.take kind (cs ++ w) = (taken, c :: (rest ++ w)) := by
        rw [(flags.take_append kind cs he).1 (by rw [htake]; exact List.cons_ne_nil _ _), htake,
          List.cons_append]
      by_cases hc : c = close
      · refine .kept taken rest (by rw [takeTo?_of_cons close htake, if_pos hc]) fun w he => ?_
        rw [takeTo?_of_cons close (hbehind w he), if_pos hc]
      · refine .failed (by rw [takeTo?_of_cons close htake, if_neg hc]) fun w he a rest' h => ?_
        rw [takeTo?_of_cons close (hbehind w he), if_neg hc] at h
        cases h

/-! ### Marks -/

/-- Two results of a reader as one. -/
def pairLeft {α β γ : Type} (p : α × β × γ) : (α × β) × γ := ((p.1, p.2.1), p.2.2)

theorem after?_cons (m c : Char) (cs : List Char) :
    Text.after? [m] (c :: cs) = if c = m then some cs else none := by
  by_cases h : m = c
  · simp [Text.after?, List.isPrefixOf, h]
  · simp [Text.after?, List.isPrefixOf, h, Ne.symm h]

theorem after?_eq_none (mark : List Char) {cs : List Char} (h : ∀ tail, cs = mark ++ tail → False) :
    Text.after? mark cs = none := by
  unfold Text.after?
  by_cases hprefix : mark.isPrefixOf cs = true
  · rcases List.isPrefixOf_iff_prefix.mp hprefix with ⟨tail, rfl⟩
    exact (h tail rfl).elim
  · rw [if_neg hprefix]

/-! ### Repetitions -/

/-- The blanks around a number. An ending is none. -/
theorem sharp_dropBlanks : Sharp fun cs => some ((), cs.dropWhile Text.isBlank) where
  suffix := by
    intro cs _ rest h
    cases h
    exact List.dropWhile_suffix _
  append cs w he := by
    rcases he with ⟨v, rfl, _⟩
    rw [Option.map_some]
    induction cs with
    | nil => rfl
    | cons c cs ih =>
        by_cases hc : Text.isBlank c = true
        · rw [List.cons_append, List.dropWhile_cons_of_pos hc, List.dropWhile_cons_of_pos hc, ih]
        · rw [List.cons_append, List.dropWhile_cons_of_neg hc, List.dropWhile_cons_of_neg hc]
          rfl

variable (flags : Flags)

/-- A number of repetitions. -/
theorem steady_number : Steady fun cs => (count? flags cs).1.map (·, (count? flags cs).2) := by
  have hcount := sharp_dropBlanks.steady.bind fun _ =>
    (steady_take flags Char.isDigit (by decide)).bind fun digits =>
      sharp_dropBlanks.steady.map fun _ =>
        if digits.isEmpty || 0xFFFFFFFF < Decimal.ofDigits digits then none
        else some (Decimal.ofDigits digits)
  exact hcount.filterMap id

/-- The counts of a repetition. -/
theorem steady_counts :
    Steady fun cs => (counts? flags cs).map pairLeft := by
  -- What may follow a comma, and what may follow the first number.
  have hmost (least : Nat) := (steady_number flags).bind fun most =>
    (Steady.lift (if least ≤ most then some (least, some most) else none)).expect
      ['\x7d'] (by decide)
  have hfirst (least : Nat) := Steady.choice ['\x7d'] (by decide)
    (Steady.pure (least, some least))
    (((Steady.pure (least, (none : Option Nat))).choice ['\x7d'] (by decide)
      (hmost least)).ofSkip flags |>.expect [','] (by decide))
  refine (((steady_number flags).bind hfirst).ofSkip flags).of_eq fun cs => ?_
  unfold counts?
  rcases count? flags (flags.skip cs) with ⟨_ | least, _ | ⟨c, tail⟩⟩
  · rfl
  · rfl
  · rfl
  by_cases hclose : c = '\x7d'
  · subst hclose
    rfl
  by_cases hcomma : c = ','
  · subst hcomma
    simp only [Option.map_some, Option.bind_some, after?_cons, if_pos, if_neg hclose]
    generalize flags.skip tail = cs
    split
    · rfl
    · rename_i hne
      rw [after?_eq_none ['\x7d'] hne]
      -- The second number, and the brace behind it.
      rcases count? flags cs with ⟨_ | most, _ | ⟨d, tail⟩⟩
      · rfl
      · rfl
      · rfl
      by_cases hd : d = '\x7d'
      · subst hd
        by_cases hle : least ≤ most <;> simp [hle, after?_cons, pairLeft]
      · simp [hd, after?_cons]
  · simp [hclose, hcomma, after?_cons]

/-! ### Groups -/

/-- The name of a group. -/
theorem steady_groupName (r : Reading) : Steady fun cs => (groupName? cs).bind r.enter? := by
  have h := (Sharp.cutAt '>' (by decide)).steady.filterMap fun name =>
    if name.head?.any (isGroupNameChar true) && name.tail.all (isGroupNameChar false) then
      (r.enter? (.capturing (some name) [])).map Prod.fst
    else none
  refine h.of_eq fun cs => ?_
  unfold groupName?
  -- A name has a first character and is closed by the mark.
  rcases Text.cutAt '>' cs with ⟨_ | ⟨c, name⟩, _ | tail⟩
  · rfl
  · rfl
  · rfl
  · simp only [Option.map_some, Option.bind_some, List.head?_cons, Option.any_some, List.tail_cons]
    by_cases hname : (isGroupNameChar true c && name.all (isGroupNameChar false)) = true
    · simp only [if_pos hname, Option.bind_some, Reading.enter?]
      split <;> rfl
    · simp [hname]

/-- What the letters of the flags and the mark behind them say. -/
def flagsTo? (flags : Flags) (seen cs : List Char) : Option ((Flags × Char) × List Char) :=
  (flagLetters? flags seen cs).bind fun p =>
    match p.2 with
    | [] => none
    | c :: rest => some ((p.1, c), rest)

theorem flagsTo?_cons (seen : List Char) (c : Char) (cs : List Char) :
    flagsTo? flags seen (c :: cs) =
      if c = ':' ∨ c = ')' then
        if seen.head? = some '-' then none else some ((flags, c), cs)
      else if seen.contains c then none
      else if c = '-' then flagsTo? flags ('-' :: seen) cs
      else (flags.set? c (!seen.contains '-')).bind fun flags => flagsTo? flags (c :: seen) cs := by
  rw [flagsTo?, flagLetters?]
  split_ifs
  · rfl
  · rfl
  · rfl
  · rfl
  · cases flags.set? c (!seen.contains '-') <;> rfl

theorem steady_flagsTo (flags : Flags) (seen : List Char) : Steady (flagsTo? flags seen) where
  suffix := by
    intro cs
    -- Each letter changes the flags, and is remembered so as not to be read twice.
    induction cs generalizing flags seen with
    | nil =>
        intro _ _ h
        cases h
    | cons c cs ih =>
        intro a rest h
        rw [flagsTo?_cons] at h
        split_ifs at h
        · cases h
          exact List.suffix_cons _ _
        · exact (ih _ _ h).trans (List.suffix_cons _ _)
        · rcases Option.bind_eq_some_iff.mp h with ⟨flags', _, h⟩
          exact (ih _ _ h).trans (List.suffix_cons _ _)
  behind cs := by
    induction cs generalizing flags seen with
    | nil =>
        refine .failed rfl fun w he a rest h => ?_
        rcases he with ⟨v, rfl, _⟩
        rw [List.nil_append, flagsTo?_cons, if_pos (Or.inr rfl)] at h
        split_ifs at h
        cases h
        exact List.suffix_refl _
    | cons c cs ih =>
        have heq (cs : List Char) := flagsTo?_cons flags seen c cs
        split_ifs at heq
        · exact (Steady.none.behind cs).of_eq (heq cs) fun w _ => heq (cs ++ w)
        · exact ((Steady.pure _).behind cs).of_eq (heq cs) fun w _ => heq (cs ++ w)
        · exact (Steady.none.behind cs).of_eq (heq cs) fun w _ => heq (cs ++ w)
        · exact (ih _ _).of_eq (heq cs) fun w _ => heq (cs ++ w)
        · cases hset : flags.set? c (!seen.contains '-') with
          | none =>
              simp only [hset, Option.bind_none] at heq
              exact (Steady.none.behind cs).of_eq (heq cs) fun w _ => heq (cs ++ w)
          | some flags' =>
              simp only [hset, Option.bind_some] at heq
              exact (ih _ _).of_eq (heq cs) fun w _ => heq (cs ++ w)

theorem steady_flagsTo_cons (flags : Flags) (seen : List Char) (c : Char) :
    Steady fun cs => flagsTo? flags seen (c :: cs) := by
  have heq := flagsTo?_cons flags seen c
  split_ifs at heq
  · exact Steady.none.of_eq heq
  · exact (Steady.pure _).of_eq heq
  · exact Steady.none.of_eq heq
  · exact (steady_flagsTo _ _).of_eq heq
  · cases hset : flags.set? c (!seen.contains '-') with
    | none =>
        simp only [hset, Option.bind_none] at heq
        exact Steady.none.of_eq heq
    | some flags' =>
        simp only [hset, Option.bind_some] at heq
        exact (steady_flagsTo _ _).of_eq heq

/-- A group with flags, or flags for the rest of a group. There is at least one letter where
    no group follows. -/
theorem steady_flagGroup (r : Reading) : Steady fun cs =>
    Option.bind
      (match flagLetters? r.flags [] cs with
        | some (inner, ':' :: rest) => some (Opening.plain inner rest)
        | some (inner, ')' :: rest) =>
          if cs.head? = some ')' then none else some (.flags inner rest)
        | _ => none)
      r.enter? := by
  have hfirst (c : Char) : Steady fun cs =>
      if c = ')' then none
      else
        (flagsTo? r.flags [] (c :: cs)).bind fun p =>
          (if p.1.2 = ':' then (r.enter? (.plain p.1.1 [])).map Prod.fst
            else if p.1.2 = ')' then (r.enter? (.flags p.1.1 [])).map Prod.fst
            else none).map (·, p.2) := by
    by_cases hc : c = ')'
    · simp only [if_pos hc]
      exact Steady.none
    · simp only [if_neg hc]
      exact (steady_flagsTo_cons r.flags [] c).filterMap fun read =>
        if read.2 = ':' then (r.enter? (.plain read.1 [])).map Prod.fst
        else if read.2 = ')' then (r.enter? (.flags read.1 [])).map Prod.fst
        else none
  refine (Steady.head hfirst).of_eq fun cs => ?_
  rcases cs with _ | ⟨c, cs⟩
  · rfl
  by_cases hc : c = ')'
  · subst hc
    rfl
  simp only [if_neg hc, flagsTo?, List.head?_cons, Option.some.injEq]
  rcases flagLetters? r.flags [] (c :: cs) with _ | ⟨inner, _ | ⟨mark, rest⟩⟩
  · rfl
  · rfl
  -- The mark behind the letters decides between a group and a change of flags.
  by_cases hplain : mark = ':'
  · subst hplain
    rfl
  by_cases hflags : mark = ')'
  · subst hflags
    rfl
  · simp [hplain, hflags]

theorem steady_enter (r : Reading) : Steady fun cs => (opening? r.flags cs).bind r.enter? := by
  have hname := Steady.choice ['='] (by decide) Steady.none
    (Steady.choice ['!'] (by decide) Steady.none (steady_groupName r))
  have hcapturing := Steady.lift ((r.enter? (.capturing none [])).map Prod.fst)
  have h := (Steady.choice ['?', 'P', '<'] (by decide) (steady_groupName r)
    (Steady.choice ['?', '<'] (by decide) hname
      (Steady.choice ['?'] (by decide) (steady_flagGroup r) hcapturing))).ofSkip r.flags
  -- The reader itself looks at the longest opening first, as the choices above do.
  refine h.of_eq fun cs => ?_
  unfold opening?
  split
  · rename_i heq
    rw [heq]
    rfl
  · rename_i tail heq
    have hcapturing : Text.after? ['?', 'P', '<'] ('?' :: '<' :: tail) = none := rfl
    have hangle : Text.after? ['?', '<'] ('?' :: '<' :: tail) = some tail := rfl
    simp only [heq, hcapturing, hangle]
    split
    · rfl
    · rfl
    · rename_i h1 h2
      rw [after?_eq_none ['='] h1, after?_eq_none ['!'] h2]
  · rename_i tail h1 h2 heq
    rw [heq, after?_eq_none ['?', 'P', '<'] fun rest h => h1 rest (List.cons.inj h).2,
      after?_eq_none ['?', '<'] fun rest h => h2 rest (List.cons.inj h).2]
    rfl
  · rename_i h1 h2 h3
    rw [after?_eq_none ['?', 'P', '<'] h1, after?_eq_none ['?', '<'] h2, after?_eq_none ['?'] h3]
    rfl

/-! ### Escapes -/

theorem steady_characters (n : Nat) : Steady (characters? flags n) := by
  induction n with
  | zero => exact Steady.pure []
  | succ n ih =>
      have hfirst (c : Char) := (ih.ofSkip flags).map fun taken => c :: taken
      refine (Steady.head hfirst).of_eq fun cs => ?_
      rcases cs with _ | ⟨c, cs⟩ <;> rfl

/-- A code point in hexadecimal digits. -/
theorem steady_hexEscape (digits : Nat) : Steady (hexEscape? flags digits) := by
  -- A number in braces may be of any length, one without has a fixed number of digits.
  have hbraces := ((steady_takeTo flags (fun c => (hexValue? c).isSome) '\x7d'
    (by decide)).ofSkip flags).bind fun number =>
      Steady.withSome (hexNumber? number) fun n => Steady.liftMap (scalar? n) Escape.literal
  have hplain := (steady_characters flags digits).bind fun number =>
    Steady.withSome (hexNumber? number) fun n => Steady.withSome (scalar? n) fun c =>
      Steady.ite (P := (digits = 2 && !flags.admits c) = true) Steady.none
        (Steady.pure (Escape.literal c))
  refine ((Steady.choice ['\x7b'] (by decide) hbraces hplain).ofSkip flags).of_eq
    fun cs => ?_
  unfold hexEscape?
  split
  · rename_i cs heq
    rw [heq]
    change _ = (takeTo? flags _ _ (flags.skip cs)).bind _
    unfold takeTo?
    rcases flags.take (fun c => (hexValue? c).isSome) (flags.skip cs) with ⟨number, _ | ⟨c, tail⟩⟩
    · rfl
    by_cases hc : c = '\x7d'
    · subst hc
      rfl
    · simp [hc]
  · rename_i hne
    rw [after?_eq_none ['\x7b'] hne]

/-- The condition on words that a name in braces stands for. -/
def edge? (flags : Flags) (name : List Char) : Option Escape :=
  match String.ofList name with
  | "start" => some (.at (.wordStart flags.alphabet))
  | "end" => some (.at (.wordEnd flags.alphabet))
  | "start-half" => some (.at (.noWordBefore flags.alphabet))
  | "end-half" => some (.at (.noWordAfter flags.alphabet))
  | _ => none

theorem wordEdge?_brace (cs : List Char) : wordEdge? flags ('\x7b' :: cs) =
    if (flags.take (fun c => c.isAlpha || c == '-') (flags.skip cs)).1 = [] then
      some (.at (.wordEdge flags.alphabet), '\x7b' :: cs)
    else
      (takeTo? flags (fun c => c.isAlpha || c == '-') '\x7d' (flags.skip cs)).bind fun p =>
        (edge? flags p.1).map (·, p.2) := by
  unfold wordEdge? takeTo?
  simp only
  rcases flags.take (fun c => c.isAlpha || c == '-') (flags.skip cs) with
    ⟨_ | ⟨d, name⟩, _ | ⟨e, tail⟩⟩
  · rfl
  · rfl
  · rfl
  -- A name that is not closed makes the escape fail, and so does one that is not known.
  by_cases he : e = '\x7d'
  · subst he
    simp only [if_pos, Option.bind_some, edge?, reduceCtorEq, if_false]
    generalize String.ofList (d :: name) = text
    split
    · rfl
    · rfl
    · rfl
    · rfl
    · simp [*]
  · simp [he]

theorem wordEdge?_cons {c : Char} (hc : c ≠ '\x7b') (cs : List Char) :
    wordEdge? flags (c :: cs) = some (.at (.wordEdge flags.alphabet), c :: cs) := by
  simp [wordEdge?, hc]

/-- A condition on words. Where there is no name in the braces, they are left to be read. -/
theorem steady_wordEdge : Steady (wordEdge? flags) := by
  have hname := ((steady_takeTo flags (fun c => c.isAlpha || c == '-') '\x7d'
    (by decide)).ofSkip flags).filterMap (edge? flags)
  -- Whether there is a name at all is not changed by an ending.
  have htaken (cs w : List Char) (he : Ending w) :
      (flags.take (fun c => c.isAlpha || c == '-') (flags.skip (cs ++ w))).1 =
        (flags.take (fun c => c.isAlpha || c == '-') (flags.skip cs)).1 := by
    have hbehind := ((steady_take flags (fun c => c.isAlpha || c == '-')
      (by decide)).ofSkip flags).behind cs
    cases hbehind with
    | kept a rest hcs hw => rw [Option.some.inj hcs, Option.some.inj (hw w he)]
    | hidden a hcs hw => rw [Option.some.inj hcs, Option.some.inj (hw w he)]
    | failed hcs => cases hcs
  constructor
  · intro cs a rest h
    rcases cs with _ | ⟨c, cs⟩
    · cases h
      exact List.suffix_refl _
    by_cases hc : c = '\x7b'
    · subst hc
      rw [wordEdge?_brace] at h
      split_ifs at h
      · cases h
        exact List.suffix_refl _
      · exact (hname.suffix h).trans (List.suffix_cons _ _)
    · rw [wordEdge?_cons flags hc] at h
      cases h
      exact List.suffix_refl _
  · intro cs
    rcases cs with _ | ⟨c, cs⟩
    · refine .kept _ [] rfl fun w he => ?_
      rcases he with ⟨v, rfl, _⟩
      rfl
    by_cases hc : c = '\x7b'
    · subst hc
      by_cases hnil : (flags.take (fun c => c.isAlpha || c == '-') (flags.skip cs)).1 = []
      · refine .kept _ _ (by rw [wordEdge?_brace, if_pos hnil]) fun w he => ?_
        rw [List.cons_append, wordEdge?_brace, htaken cs w he, if_pos hnil]
      · refine (hname.behind cs).of_eq (by rw [wordEdge?_brace, if_neg hnil]) fun w he => ?_
        rw [List.cons_append, wordEdge?_brace, htaken cs w he, if_neg hnil]
    · refine .kept _ _ (wordEdge?_cons flags hc cs) fun w _ => wordEdge?_cons flags hc _

/-- The class of a property. -/
theorem steady_propertyClass (negated : Bool) : Steady (propertyClass? flags negated) := by
  cases halphabet : flags.alphabet with
  | ascii =>
      refine Steady.none.of_eq fun cs => ?_
      unfold propertyClass?
      simp only [halphabet]
      split
      · rfl
      · split <;> rfl
      · rfl
  | unicode =>
      have hclass (text : List Char) : Steady fun tail =>
          (property? text).bind fun p =>
            (flags.complIf? negated (flags.close (.property p))).map
              fun s => (Escape.set s, tail) :=
        Steady.withSome _ fun p => Steady.liftMap _ Escape.set
      -- The property is named by one letter or inside braces.
      have hfirst (c : Char) := Steady.ite (P := c = '\x7b')
        (((steady_takeTo flags (· != '\x7d') '\x7d' (by decide)).ofSkip flags).bind hclass)
        (hclass [c])
      refine ((Steady.head hfirst).ofSkip flags).of_eq fun cs => ?_
      unfold propertyClass?
      rcases flags.skip cs with _ | ⟨c, cs⟩
      · rfl
      by_cases hc : c = '\x7b'
      · subst hc
        simp only [if_pos, halphabet]
        rcases htake : flags.take (· != '\x7d') (flags.skip cs) with ⟨text, _ | ⟨d, tail⟩⟩
        · rw [takeTo?_of_nil _ htake]
          rfl
        rw [takeTo?_of_cons _ htake]
        by_cases hd : d = '\x7d'
        · subst hd
          rfl
        · simp [hd]
      · simp [hc, halphabet]

/-- An escape, from its letter on. -/
theorem steady_escape : Steady (escape? flags) := by
  have hletter (c : Char) : Steady fun cs => escape? flags (c :: cs) := by
    have hclass (negated : Bool) (set : CharSet) :=
      Steady.liftMap (flags.complIf? negated set) Escape.set
    have hother : Steady fun cs =>
        if c.toNat < 0x80 && !c.isAlphanum then some (Escape.literal c, cs)
        else (control? c).map fun d => (.literal d, cs) :=
      Steady.ite (Steady.pure _) (Steady.liftMap _ _)
    generalize hread : escape? flags [c] = read
    unfold escape? at hread
    dsimp only at hread
    split at hread
    · exact hclass false _
    · exact hclass true _
    · exact hclass false _
    · exact hclass true _
    · exact hclass false _
    · exact hclass true _
    · exact steady_propertyClass flags false
    · exact steady_propertyClass flags true
    · exact steady_hexEscape flags 2
    · exact steady_hexEscape flags 4
    · exact steady_hexEscape flags 8
    · exact Steady.pure _
    · exact Steady.pure _
    · exact steady_wordEdge flags
    · exact Steady.pure _
    · exact Steady.pure _
    · exact Steady.pure _
    · refine hother.of_eq fun cs => ?_
      unfold escape?
      dsimp only
      split <;> first | rfl | contradiction
  refine (Steady.head hletter).of_eq fun cs => ?_
  cases cs <;> rfl

end Pattern

end Reckon
