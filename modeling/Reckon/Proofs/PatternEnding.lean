import Mathlib.Data.List.Infix
import Reckon.Pattern.Flags
import Reckon.Text.Cut

/-!
# Notations in Parentheses

A notation that is set in parentheses is read with something behind it that is not its own.
What reads a part of it may come to the end and see the closing parenthesis there, where it
saw nothing before. Three things can come of it (`Pattern.Behind`):

* the same is read as before, and the ending is left;
* the same is read, but a comment goes to the end, and the ending is in the comment;
* nothing was read before, and what is read now, if it is anything, has taken the
  parenthesis for its own, so that it is missing afterwards.

That there is nothing else is true of small readers, and stays true when they are put
together (`Pattern.Steady`). The rules here are for the ways in which that is done: one after
another, one of two by what a text begins with, and with what is skipped in front.

## Main definitions

* `Pattern.Ending`: What stands behind a notation in parentheses.
* `Pattern.Behind`: What becomes of one reading with an ending behind it.
* `Pattern.Steady`: A reader of which this is true in every text.
* `Pattern.Sharp`: A reader to which an ending makes no difference at all.

## Theorems

* `Pattern.Behind.bind`, `Pattern.Steady.bind`: One reader after another.
* `Pattern.Steady.cases`, `Pattern.Steady.choice`: One of two readers.
* `Pattern.Steady.ofSkip`: A reader behind what is skipped.
-/

namespace Reckon

namespace Pattern

/-- What stands behind a notation in parentheses: the closing one, and at most a dollar sign
    behind it. -/
def Ending (w : List Char) : Prop :=
  ∃ v, w = ')' :: v ∧ (v = [] ∨ v = ['$'])

theorem Ending.mem {w : List Char} (h : Ending w) {c : Char} (hc : c ∈ w) :
    c = ')' ∨ c = '$' := by
  rcases h with ⟨v, rfl, hv⟩
  rcases List.mem_cons.mp hc with rfl | hc
  · exact Or.inl rfl
  · rcases hv with rfl | rfl
    · cases hc
    · exact Or.inr (List.mem_singleton.mp hc)

theorem Ending.not_mem {w : List Char} (h : Ending w) {c : Char} (hc : c ≠ ')' ∧ c ≠ '$') :
    c ∉ w := by
  intro hmem
  rcases h.mem hmem with heq | heq
  · exact hc.1 heq
  · exact hc.2 heq

variable {α β : Type}

/-- What becomes of a reading when an ending is set behind the text. -/
inductive Behind (f : List Char → Option (α × List Char)) (cs : List Char) : Prop where
  /-- The same is read, and the ending is left. -/
  | kept (a : α) (rest : List Char) :
      f cs = some (a, rest) →
      (∀ w, Ending w → f (cs ++ w) = some (a, rest ++ w)) → Behind f cs
  /-- The same is read, and the ending is in a comment. -/
  | hidden (a : α) :
      f cs = some (a, []) →
      (∀ w, Ending w → f (cs ++ w) = some (a, [])) → Behind f cs
  /-- Nothing is read, unless the parenthesis is taken. -/
  | failed :
      f cs = none →
      (∀ w, Ending w → ∀ a rest, f (cs ++ w) = some (a, rest) → rest <:+ w.tail) → Behind f cs

/-- A reader takes its part off the front of a text, and an ending behind the text does to
    it what is said above. -/
structure Steady (f : List Char → Option (α × List Char)) : Prop where
  suffix : ∀ {cs : List Char} {a : α} {rest : List Char}, f cs = some (a, rest) → rest <:+ cs
  behind : ∀ cs : List Char, Behind f cs

/-- A reader behaves in a text as another one does in some other text. -/
theorem Behind.of_eq {f g : List Char → Option (α × List Char)} {cs cs' : List Char}
    (h : Behind g cs') (alone : f cs = g cs')
    (behind : ∀ w, Ending w → f (cs ++ w) = g (cs' ++ w)) : Behind f cs := by
  cases h with
  | kept a rest hcs hw =>
      exact .kept a rest (alone.trans hcs) fun w he => (behind w he).trans (hw w he)
  | hidden a hcs hw =>
      exact .hidden a (alone.trans hcs) fun w he => (behind w he).trans (hw w he)
  | failed hcs hw =>
      refine .failed (alone.trans hcs) fun w he a rest h => hw w he a rest ?_
      rw [← behind w he, h]

section Bind

variable {f : List Char → Option (α × List Char)} {g : α → List Char → Option (β × List Char)}

/-- One reading after another. -/
theorem Behind.bind {cs : List Char} (hf : Behind f cs)
    (hg : ∀ a rest, f cs = some (a, rest) → Behind (g a) rest)
    (hsuffix : ∀ {a cs b rest}, g a cs = some (b, rest) → rest <:+ cs) :
    Behind (fun cs => (f cs).bind fun p => g p.1 p.2) cs := by
  cases hf with
  | kept a rest hcs hw =>
      refine (hg a rest hcs).of_eq ?_ fun w he => ?_
      · rw [hcs, Option.bind_some]
      · rw [hw w he, Option.bind_some]
  | hidden a hcs hw =>
      -- Nothing is left to the second one, with the ending and without it.
      cases hga : g a [] with
      | none =>
          refine .failed (by rw [hcs, Option.bind_some, hga]) fun w he b rest h => ?_
          rw [hw w he, Option.bind_some, hga] at h
          cases h
      | some p =>
          rcases p with ⟨b, rest⟩
          obtain rfl := List.suffix_nil.mp (hsuffix hga)
          refine .hidden b (by rw [hcs, Option.bind_some, hga]) fun w he => ?_
          rw [hw w he, Option.bind_some, hga]
  | failed hcs hw =>
      refine .failed (by rw [hcs, Option.bind_none]) fun w he b rest h => ?_
      rcases Option.bind_eq_some_iff.mp h with ⟨⟨a, mid⟩, hmid, hrest⟩
      exact (hsuffix hrest).trans (hw w he a mid hmid)

namespace Steady

theorem bind (hf : Steady f) (hg : ∀ a, Steady (g a)) :
    Steady fun cs => (f cs).bind fun p => g p.1 p.2 where
  suffix := by
    intro cs b rest h
    rcases Option.bind_eq_some_iff.mp h with ⟨⟨a, mid⟩, hmid, hrest⟩
    exact ((hg a).suffix hrest).trans (hf.suffix hmid)
  behind cs := (hf.behind cs).bind (fun a rest _ => (hg a).behind rest)
    fun {a} {_} {_} {_} h => (hg a).suffix h

end Steady

end Bind

namespace Steady

variable {f g : List Char → Option (α × List Char)}

theorem of_eq (hg : Steady g) (h : ∀ cs, f cs = g cs) : Steady f := by
  have heq : f = g := funext h
  rwa [heq]

/-- A result that takes nothing, if there is one. -/
theorem lift (o : Option α) : Steady fun cs => o.map fun a => (a, cs) where
  suffix := by
    intro cs a rest h
    rcases Option.map_eq_some_iff.mp h with ⟨_, _, h⟩
    cases h
    exact List.suffix_refl cs
  behind cs := by
    cases o with
    | none => exact .failed rfl fun w _ a rest h => by cases h
    | some a => exact .kept a cs rfl fun w _ => rfl

theorem pure (a : α) : Steady fun cs => some (a, cs) := lift (some a)

theorem none : Steady fun _ => (none : Option (α × List Char)) := lift Option.none

/-- A result that takes nothing, made of something that there may be. -/
theorem liftMap (o : Option β) (φ : β → α) : Steady fun cs => o.map fun b => (φ b, cs) :=
  (lift (o.map φ)).of_eq fun cs => by cases o <;> rfl

/-- A reader that depends on something that there may be. -/
theorem withSome (o : Option β) {F : β → List Char → Option (α × List Char)}
    (hF : ∀ b, Steady (F b)) : Steady fun cs => o.bind fun b => F b cs := by
  cases o with
  | none => exact none
  | some b => exact hF b

theorem ite {P : Prop} [Decidable P] (hf : Steady f) (hg : Steady g) :
    Steady fun cs => if P then f cs else g cs := by
  by_cases hP : P
  · simpa only [if_pos hP] using hf
  · simpa only [if_neg hP] using hg

/-- What is read, with something made of it that may fail. -/
theorem filterMap (hf : Steady f) (o : α → Option β) :
    Steady fun cs => (f cs).bind fun p => (o p.1).map fun b => (b, p.2) :=
  hf.bind fun a => lift (o a)

theorem map (hf : Steady f) (φ : α → β) : Steady fun cs => (f cs).map fun p => (φ p.1, p.2) :=
  (hf.filterMap fun a => some (φ a)).of_eq fun cs => by cases f cs <;> rfl

/-- One character, whichever it is. An ending gives its parenthesis. -/
theorem head {F : Char → List Char → Option (α × List Char)} (hF : ∀ c, Steady (F c)) :
    Steady fun cs => match cs with | [] => Option.none | c :: cs => F c cs where
  suffix := by
    intro cs a rest h
    cases cs with
    | nil => cases h
    | cons c cs => exact ((hF c).suffix h).trans (List.suffix_cons c cs)
  behind cs := by
    -- On no text the reader fails, and on an ending its first character is a parenthesis.
    cases cs with
    | nil =>
        refine .failed rfl fun w he a rest h => ?_
        rcases he with ⟨v, rfl, _⟩
        exact (hF ')').suffix h
    | cons c cs => exact ((hF c).behind cs).of_eq rfl fun w _ => rfl

end Steady

/-! ### Readers that do not see the ending -/

/-- A reader to which an ending makes no difference at all. -/
structure Sharp (f : List Char → Option (α × List Char)) : Prop where
  suffix : ∀ {cs : List Char} {a : α} {rest : List Char}, f cs = some (a, rest) → rest <:+ cs
  append : ∀ (cs w : List Char), Ending w → f (cs ++ w) = (f cs).map fun p => (p.1, p.2 ++ w)

namespace Sharp

variable {f g : List Char → Option (α × List Char)}

theorem steady (hf : Sharp f) : Steady f where
  suffix := hf.suffix
  behind cs := by
    cases hcs : f cs with
    | none =>
        refine .failed hcs fun w he a rest h => ?_
        rw [hf.append cs w he, hcs] at h
        cases h
    | some p =>
        refine .kept p.1 p.2 hcs fun w he => ?_
        rw [hf.append cs w he, hcs, Option.map_some]

theorem of_eq (hg : Sharp g) (h : ∀ cs, f cs = g cs) : Sharp f := by
  have heq : f = g := funext h
  rwa [heq]

theorem lift (o : Option α) : Sharp fun cs => o.map fun a => (a, cs) where
  suffix := (Steady.lift o).suffix
  append cs w _ := by cases o <;> rfl

theorem bind {g : α → List Char → Option (β × List Char)} (hf : Sharp f) (hg : ∀ a, Sharp (g a)) :
    Sharp fun cs => (f cs).bind fun p => g p.1 p.2 where
  suffix := (hf.steady.bind fun a => (hg a).steady).suffix
  append cs w he := by
    rw [hf.append cs w he]
    cases f cs with
    | none => rfl
    | some p => exact (hg p.1).append p.2 w he

/-- A mark of which the parenthesis of an ending is no part. -/
theorem mark (mark : List Char) (hmark : ')' ∉ mark) :
    Sharp fun cs => (Text.after? mark cs).map ((), ·) where
  suffix := by
    intro cs _ rest h
    rcases Option.map_eq_some_iff.mp h with ⟨tail, htail, heq⟩
    cases heq
    unfold Text.after? at htail
    by_cases hprefix : mark.isPrefixOf cs = true
    · rw [if_pos hprefix] at htail
      cases htail
      exact List.drop_suffix _ _
    · rw [if_neg hprefix] at htail
      cases htail
  append cs w he := by
    rcases he with ⟨v, rfl, _⟩
    unfold Text.after?
    -- The mark runs into the ending only with a character that is not in it.
    induction mark generalizing cs with
    | nil => cases cs <;> rfl
    | cons m mark ih =>
        rw [List.mem_cons, not_or] at hmark
        cases cs with
        | nil =>
            have hne : (m == ')') = false := beq_false_of_ne (Ne.symm hmark.1)
            simp [List.isPrefixOf, hne]
        | cons c cs =>
            by_cases hc : m = c
            · simpa [List.isPrefixOf, hc] using ih hmark.2 cs
            · simp [List.isPrefixOf, hc]

/-- A text up to a mark that is in no ending. -/
theorem cutAt (mark : Char) (hmark : mark ≠ ')' ∧ mark ≠ '$') :
    Sharp fun cs => (Text.cutAt mark cs).2.map ((Text.cutAt mark cs).1, ·) where
  suffix := by
    intro cs before rest h
    by_cases hmem : mark ∈ cs
    · rcases List.eq_append_cons_of_mem hmem with ⟨before, after, rfl, hbefore⟩
      simp only [Text.cutAt_append hbefore, Option.map_some] at h
      cases h
      exact (List.suffix_cons _ _).trans (List.suffix_append _ _)
    · simp only [Text.cutAt_of_not_mem hmem, Option.map_none] at h
      cases h
  append cs w he := by
    by_cases hmem : mark ∈ cs
    · rcases List.eq_append_cons_of_mem hmem with ⟨before, after, rfl, hbefore⟩
      simp only [List.append_assoc, List.cons_append, Text.cutAt_append hbefore, Option.map_some]
    · -- An ending has no such mark in it, so there is still nothing to cut at.
      have hmem' : mark ∉ cs ++ w := by
        rw [List.mem_append, not_or]
        exact ⟨hmem, he.not_mem hmark⟩
      simp only [Text.cutAt_of_not_mem hmem, Text.cutAt_of_not_mem hmem', Option.map_none]

end Sharp

/-! ### One of two readers -/

section Cases

variable {o : List Char → Option (β × List Char)} {f : β → List Char → Option (α × List Char)}
  {g : List Char → Option (α × List Char)}

/-- One of two readers, by whether a third one can read to which an ending makes no
    difference. -/
theorem Steady.cases (ho : Sharp o) (hf : ∀ b, Steady (f b)) (hg : Steady g) :
    Steady fun cs => match o cs with | some (b, rest) => f b rest | .none => g cs where
  suffix := by
    intro cs a rest h
    cases hcs : o cs with
    | none =>
        simp only [hcs] at h
        exact hg.suffix h
    | some p =>
        simp only [hcs] at h
        exact ((hf p.1).suffix h).trans (ho.suffix hcs)
  behind cs := by
    -- The choice itself does not depend on the ending, so the same branch is taken behind it.
    cases hcs : o cs with
    | none =>
        refine (hg.behind cs).of_eq (by simp only [hcs]) fun w he => ?_
        simp only [ho.append cs w he, hcs, Option.map_none]
    | some p =>
        refine ((hf p.1).behind p.2).of_eq (by simp only [hcs]) fun w he => ?_
        simp only [ho.append cs w he, hcs, Option.map_some]

theorem Sharp.cases (ho : Sharp o) (hf : ∀ b, Sharp (f b)) (hg : Sharp g) :
    Sharp fun cs => match o cs with | some (b, rest) => f b rest | none => g cs where
  suffix := (Steady.cases ho (fun b => (hf b).steady) hg.steady).suffix
  append cs w he := by
    rw [ho.append cs w he]
    cases o cs with
    | none => exact hg.append cs w he
    | some p => exact (hf p.1).append p.2 w he

end Cases

section Choice

variable {f g : List Char → Option (α × List Char)} (mark : List Char) (hmark : ')' ∉ mark)

include hmark

/-- One of two readers, by whether a text begins with a mark. -/
theorem Steady.choice (hf : Steady f) (hg : Steady g) :
    Steady fun cs => match Text.after? mark cs with | some rest => f rest | .none => g cs := by
  refine (Steady.cases (Sharp.mark mark hmark) (fun _ => hf) hg).of_eq fun cs => ?_
  cases Text.after? mark cs <;> rfl

theorem Sharp.choice (hf : Sharp f) (hg : Sharp g) :
    Sharp fun cs => match Text.after? mark cs with | some rest => f rest | none => g cs := by
  refine (Sharp.cases (Sharp.mark mark hmark) (fun _ => hf) hg).of_eq fun cs => ?_
  cases Text.after? mark cs <;> rfl

/-- A reader behind a mark. -/
theorem Steady.expect (hf : Steady f) : Steady fun cs => (Text.after? mark cs).bind f := by
  refine (Steady.choice mark hmark hf .none).of_eq fun cs => ?_
  cases Text.after? mark cs <;> rfl

theorem Sharp.expect (hf : Sharp f) : Sharp fun cs => (Text.after? mark cs).bind f := by
  refine (Sharp.choice mark hmark hf (.lift none)).of_eq fun cs => ?_
  cases Text.after? mark cs <;> rfl

end Choice

/-! ### What is skipped -/

/-- An ending begins with neither a blank nor a comment. -/
theorem Ending.skipBlanks {w : List Char} (he : Ending w) : Flags.skipBlanks false w = w := by
  rcases he with ⟨v, rfl, _⟩
  rw [Flags.skipBlanks, if_neg (by decide), if_neg (by decide)]

theorem Ending.skipComment {w : List Char} (he : Ending w) : Flags.skipBlanks true w = [] := by
  rcases he with ⟨v, rfl, rfl | rfl⟩ <;> decide

theorem suffix_skipBlanks (comment : Bool) (cs : List Char) :
    Flags.skipBlanks comment cs <:+ cs := by
  -- Whether the reader is inside a comment changes from character to character.
  induction cs generalizing comment with
  | nil => cases comment <;> exact List.suffix_refl _
  | cons c cs ih =>
      cases comment with
      | true => exact (ih _).trans (List.suffix_cons c cs)
      | false =>
          rw [Flags.skipBlanks]
          by_cases hblank : Text.isBlank c = true
          · rw [if_pos hblank]
            exact (ih _).trans (List.suffix_cons c cs)
          · rw [if_neg hblank]
            by_cases hcomment : c = '#'
            · rw [if_pos hcomment]
              exact (ih _).trans (List.suffix_cons c cs)
            · rw [if_neg hcomment]

/-- Skipping either comes to an ending or takes it for a part of a comment. -/
theorem skipBlanks_append (comment : Bool) (cs : List Char) :
    (∀ w, Ending w → Flags.skipBlanks comment (cs ++ w) = Flags.skipBlanks comment cs ++ w) ∨
      Flags.skipBlanks comment cs = [] ∧
        ∀ w, Ending w → Flags.skipBlanks comment (cs ++ w) = [] := by
  -- A comment that is still open at the end of the text hides the ending as well.
  induction cs generalizing comment with
  | nil =>
      cases comment with
      | true => exact Or.inr ⟨rfl, fun w he => he.skipComment⟩
      | false => exact Or.inl fun w he => he.skipBlanks
  | cons c cs ih =>
      cases comment with
      | true => exact ih _
      | false =>
          simp only [List.cons_append, Flags.skipBlanks]
          by_cases hblank : Text.isBlank c = true
          · simp only [if_pos hblank]
            exact ih _
          · simp only [if_neg hblank]
            by_cases hcomment : c = '#'
            · simp only [if_pos hcomment]
              exact ih _
            · simp only [if_neg hcomment]
              exact Or.inl fun w _ => rfl

theorem Flags.suffix_skip (flags : Flags) (cs : List Char) : flags.skip cs <:+ cs := by
  unfold Flags.skip
  by_cases h : flags.verbose = true
  · rw [if_pos h]
    exact suffix_skipBlanks false cs
  · rw [if_neg h]

theorem Flags.skip_append (flags : Flags) (cs : List Char) :
    (∀ w, Ending w → flags.skip (cs ++ w) = flags.skip cs ++ w) ∨
      flags.skip cs = [] ∧ ∀ w, Ending w → flags.skip (cs ++ w) = [] := by
  unfold Flags.skip
  by_cases h : flags.verbose = true
  · simp only [if_pos h]
    exact skipBlanks_append false cs
  · simp only [if_neg h]
    exact Or.inl fun _ _ => trivial

theorem Ending.skip {w : List Char} (he : Ending w) (flags : Flags) : flags.skip w = w := by
  unfold Flags.skip
  by_cases h : flags.verbose = true
  · rw [if_pos h, he.skipBlanks]
  · rw [if_neg h]

theorem steady_skip (flags : Flags) : Steady fun cs => some ((), flags.skip cs) where
  suffix := by
    intro cs _ rest h
    cases h
    exact flags.suffix_skip cs
  behind cs := by
    rcases flags.skip_append cs with hkept | ⟨hnil, hhidden⟩
    · exact .kept () _ rfl fun w he => by rw [hkept w he]
    · exact .hidden () (by rw [hnil]) fun w he => by rw [hhidden w he]

/-- A reader behind what is skipped. -/
theorem Steady.ofSkip {f : List Char → Option (α × List Char)} (flags : Flags) (hf : Steady f) :
    Steady fun cs => f (flags.skip cs) :=
  (steady_skip flags).bind fun _ => hf

end Pattern

end Reckon
