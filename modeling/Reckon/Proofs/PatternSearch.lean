import Mathlib.Data.Nat.Bitwise
import Mathlib.Logic.Function.Iterate
import Reckon.Pattern.Search

/-!
# What the Search Finds

A search follows all matches of a pattern at once, as a map from the places where a match may
begin to those where one may end. What it computes with are numbers, read bit by bit, and
what it has to answer is told by `Pattern.Matches`, rule by rule. The two are brought together
by one property, which has a case for every kind of pattern: the bits of what a map makes of
some places are the places that a match leads to from one of them (`Plan.Follows`).

Only repetitions need an argument. Matches never lead backward, so one that leads nowhere can
be left out, and of the others there are no more than there are characters
(`Pattern.Repeats.shorten`). That is why it is enough to look for as many repetitions as there
are places.

A repetition with a count is searched for as if it had at least as many repetitions as it
needs. Nothing else can be written (`Pattern.Counted`).

## Main definitions

* `Pattern.Repeats`: A number of matches one after another.
* `Pattern.Counted`: No repetition is allowed fewer times than it is needed.
* `Plan.Follows`: A map of places that follows some steps.

## Theorems

* `Pattern.matches_times_iff`: What a repetition matches.
* `Pattern.Repeats.shorten`: Repetitions that lead nowhere are left out.
* `Plan.follows_ends`: The ends of matches.
* `Pattern.occursIn_iff`: A search finds what there is.
-/

namespace Reckon

namespace Pattern

variable {text : List Char}

/-- A match ends in the text, and not before it begins. -/
theorem Matches.le {p : Pattern} {i j : Nat} (h : Matches text p i j) :
    i ≤ j ∧ j ≤ text.length := by
  -- A match ends where it begins or later, and inside the text.
  induction h with
  | empty hi => exact ⟨Nat.le_refl _, hi⟩
  | set hget _ =>
      have hlt := (List.getElem?_eq_some_iff.mp hget).1
      omega
  | «at» hi _ => exact ⟨Nat.le_refl _, hi⟩
  | cat _ _ iha ihb => omega
  | altLeft _ ih => exact ih
  | altRight _ ih => exact ih
  | done hi => exact ⟨Nat.le_refl _, hi⟩
  | again _ _ _ ihbody ihmore => omega
  | group _ ih => exact ih

theorem matches_cat_iff {a b : Pattern} {i k : Nat} :
    Matches text (.cat a b) i k ↔ ∃ j, Matches text a i j ∧ Matches text b j k := by
  constructor
  · intro h
    cases h with
    | cat ha hb => exact ⟨_, ha, hb⟩
  · rintro ⟨j, ha, hb⟩
    exact .cat ha hb

theorem matches_group_iff {number : Option Nat} {body : Pattern} {i j : Nat} :
    Matches text (.group number body) i j ↔ Matches text body i j := by
  constructor
  · intro h
    cases h with
    | group h => exact h
  · exact .group

/-- A number of matches of a pattern, one directly after the other. -/
inductive Repeats (text : List Char) (body : Pattern) : Nat → Nat → Nat → Prop where
  | none {i : Nat} : i ≤ text.length → Repeats text body 0 i i
  | more {n i j k : Nat} :
      Matches text body i j → Repeats text body n j k → Repeats text body (n + 1) i k

namespace Repeats

variable {body : Pattern} {m n i j k : Nat}

theorem le (h : Repeats text body n i j) : i ≤ j ∧ j ≤ text.length := by
  induction h with
  | none hi => exact ⟨Nat.le_refl _, hi⟩
  | more hbody _ ih =>
      have hle := hbody.le
      omega

/-- Repetitions can be cut after any number of them. -/
theorem add_iff :
    Repeats text body (m + n) i k ↔ ∃ j, Repeats text body m i j ∧ Repeats text body n j k := by
  -- The first repetition is taken off on both sides, with the place where it begins free.
  induction m generalizing i with
  | zero =>
      rw [Nat.zero_add]
      constructor
      · intro h
        exact ⟨i, .none (h.le.1.trans h.le.2), h⟩
      · rintro ⟨j, _ | _, h⟩
        exact h
  | succ m ih =>
      rw [Nat.add_right_comm]
      constructor
      · rintro (_ | ⟨hbody, h⟩)
        rcases ih.mp h with ⟨j, hfirst, hrest⟩
        exact ⟨j, .more hbody hfirst, hrest⟩
      · rintro ⟨j, _ | ⟨hbody, hfirst⟩, hrest⟩
        exact .more hbody (ih.mpr ⟨j, hfirst, hrest⟩)

/-- Matches that lead nowhere are left out, and each of the others takes a character. -/
theorem shorten (h : Repeats text body n i j) :
    ∃ m, m ≤ n ∧ m ≤ j - i ∧ Repeats text body m i j := by
  induction h with
  | none hi => exact ⟨0, Nat.le_refl _, Nat.zero_le _, .none hi⟩
  | @more n i mid j hbody hrest ih =>
      rcases ih with ⟨m, hn, hm, hrepeats⟩
      have hle := hbody.le
      have hle' := hrest.le
      by_cases heq : i = mid
      · subst heq
        exact ⟨m, by omega, hm, hrepeats⟩
      · exact ⟨m + 1, by omega, by omega, .more hbody hrepeats⟩

end Repeats

/-- A repetition matches as many matches one after another as it needs and allows. -/
theorem matches_times_iff {body : Pattern} {least : Nat} {most : Option Nat} {i k : Nat} :
    Matches text (.times body least most) i k ↔
      ∃ n, least ≤ n ∧ (∀ m ∈ most, n ≤ m) ∧ Repeats text body n i k := by
  constructor
  · intro h
    -- The counts go down by one with each match of the body, so they are generalised.
    generalize hp : Pattern.times body least most = p at h
    induction h generalizing least most with
    | done hi =>
        cases hp
        exact ⟨0, Nat.le_refl _, fun m _ => Nat.zero_le m, .none hi⟩
    | again hmost hbody _ _ ih =>
        cases hp
        rcases ih rfl with ⟨n, hleast, hn, hrepeats⟩
        refine ⟨n + 1, by omega, fun m hm => ?_, .more hbody hrepeats⟩
        have hm' := hn (m - 1) (Option.mem_map_of_mem _ hm)
        -- An upper bound of zero would have left no room for this repetition.
        have hne : m ≠ 0 := by
          rintro rfl
          exact hmost hm
        omega
    | _ => cases hp
  · rintro ⟨n, hleast, hmost, hrepeats⟩
    induction hrepeats generalizing least most with
    | none hi =>
        rw [Nat.le_zero.mp hleast]
        exact .done hi
    | more hbody _ ih =>
        refine .again ?_ hbody (ih (by omega) fun m hm => ?_)
        · rintro rfl
          exact absurd (hmost 0 rfl) (Nat.not_succ_le_zero _)
        · rcases Option.mem_map.mp hm with ⟨m', hm', rfl⟩
          have hle := hmost m' hm'
          omega

/-- No repetition is allowed fewer times than it is needed. -/
def Counted : Pattern → Prop
  | .cat a b | .alt a b => a.Counted ∧ b.Counted
  | .times body least most => (∀ n ∈ most, least ≤ n) ∧ body.Counted
  | .group _ body => body.Counted
  | _ => True

end Pattern

namespace Plan

open Pattern

variable {text : List Char} {f g : Nat → Nat} {r s : Nat → Nat → Prop}

/-- The places of a text whose character is in a set. -/
theorem testBit_setPlaces (set : CharSet) (text : List Char) (i : Nat) :
    (setPlaces set text).testBit i = true ↔ ∃ c, text[i]? = some c ∧ set.contains c = true := by
  induction text generalizing i with
  | nil => simp [setPlaces]
  | cons c cs ih =>
      have hbit : setPlaces set (c :: cs) = Nat.bit (set.contains c) (setPlaces set cs) := by
        rw [setPlaces, Nat.bit_val]
      rw [hbit]
      cases i with
      | zero => simp
      | succ i =>
          rw [Nat.testBit_bit_succ, ih]
          simp

/-- The places of a text, the one behind it included, at which a condition holds. -/
theorem testBit_conditionPlaces (condition : Condition) (before : Option Char)
    (text : List Char) (i : Nat) :
    (conditionPlaces condition before text).testBit i = true ↔
      i ≤ text.length ∧
        condition.holds (match i with | 0 => before | i + 1 => text[i]?) text[i]? = true := by
  induction text generalizing before i with
  | nil =>
      have hbit : conditionPlaces condition before [] =
          Nat.bit (condition.holds before none) 0 := by
        rw [conditionPlaces, Nat.bit_val, Nat.mul_zero, Nat.zero_add]
      rw [hbit]
      cases i with
      | zero => simp
      | succ i =>
          rw [Nat.testBit_bit_succ]
          simp
  | cons c cs ih =>
      -- The lowest bit speaks of the first place, the others of the rest of the text.
      have hbit : conditionPlaces condition before (c :: cs) =
          Nat.bit (condition.holds before (some c)) (conditionPlaces condition (some c) cs) := by
        rw [conditionPlaces, Nat.bit_val]
      rw [hbit]
      cases i with
      | zero => simp
      | succ i =>
          rw [Nat.testBit_bit_succ, ih]
          cases i <;> simp

theorem iterate_eq (f : Nat → Nat) (n places : Nat) : iterate f n places = f^[n] places := by
  induction n generalizing places with
  | zero => rfl
  | succ n ih =>
      rw [iterate]
      by_cases h : f places = places
      · -- What is mapped to itself stays.
        simp only [if_pos h]
        exact (Function.iterate_fixed h (n + 1)).symm
      · simp only [if_neg h]
        exact ih (f places)

/-- Some places of a text, the one behind it included. -/
def Within (text : List Char) (places : Nat) : Prop :=
  ∀ i, places.testBit i = true → i ≤ text.length

/-- A map of places follows some steps: what it makes of some places are those that a step
    leads to from one of them. -/
def Follows (text : List Char) (f : Nat → Nat) (r : Nat → Nat → Prop) : Prop :=
  ∀ places, Within text places →
    ∀ j, (f places).testBit j = true ↔ ∃ i, places.testBit i = true ∧ r i j

theorem Follows.within (h : Follows text f r) (hr : ∀ i j, r i j → j ≤ text.length)
    {places : Nat} (hplaces : Within text places) : Within text (f places) := by
  intro j hj
  rcases (h places hplaces j).mp hj with ⟨i, _, hij⟩
  exact hr i j hij

/-- One map after another. -/
theorem Follows.comp (hf : Follows text f r) (hg : Follows text g s)
    (hr : ∀ i j, r i j → j ≤ text.length) :
    Follows text (fun places => g (f places)) fun i k => ∃ j, r i j ∧ s j k := by
  intro places hplaces k
  rw [hg _ (hf.within hr hplaces)]
  constructor
  · rintro ⟨j, hj, hjk⟩
    rcases (hf places hplaces j).mp hj with ⟨i, hi, hij⟩
    exact ⟨i, hi, j, hij, hjk⟩
  · rintro ⟨i, hi, j, hij, hjk⟩
    exact ⟨j, (hf places hplaces j).mpr ⟨i, hi, hij⟩, hjk⟩

theorem Follows.congr (h : Follows text f r) (hs : ∀ i j, r i j ↔ s i j) : Follows text f s := by
  intro places hplaces j
  simp only [h places hplaces j, hs]

section Repetition

variable {body : Pattern} (h : Follows text f (Matches text body))

include h

/-- A map applied a number of times follows that many matches. -/
theorem follows_iterate (n : Nat) : Follows text (iterate f n) (Repeats text body n) := by
  intro places hplaces k
  rw [iterate_eq]
  -- The set of places changes with each round.
  induction n generalizing places with
  | zero =>
      constructor
      · intro hk
        exact ⟨k, hk, .none (hplaces k hk)⟩
      · rintro ⟨i, hi, _ | _⟩
        exact hi
  | succ n ih =>
      rw [Function.iterate_succ_apply, ih _ (h.within (fun _ _ hm => hm.le.2) hplaces)]
      constructor
      · rintro ⟨j, hj, hrest⟩
        rcases (h places hplaces j).mp hj with ⟨i, hi, hij⟩
        exact ⟨i, hi, .more hij hrest⟩
      · rintro ⟨i, hi, _ | ⟨hij, hrest⟩⟩
        exact ⟨_, (h places hplaces _).mpr ⟨i, hi, hij⟩, hrest⟩

/-- What is reached in up to a number of applications is what up to that many matches lead
    to. -/
theorem follows_reach (n : Nat) :
    Follows text (reach f n) fun i k => ∃ m, m ≤ n ∧ Repeats text body m i k := by
  intro places hplaces k
  rw [reach, iterate_eq]
  induction n generalizing places with
  | zero =>
      constructor
      · intro hk
        exact ⟨k, hk, 0, Nat.le_refl _, .none (hplaces k hk)⟩
      · rintro ⟨i, hi, m, hm, hrepeats⟩
        obtain rfl := Nat.le_zero.mp hm
        cases hrepeats
        exact hi
  | succ n ih =>
      -- One round keeps the places it had and adds those one match further.
      have hseen (j : Nat) : (places ||| f places).testBit j = true ↔
          places.testBit j = true ∨ ∃ i, places.testBit i = true ∧ Matches text body i j := by
        rw [Nat.testBit_or, Bool.or_eq_true, h places hplaces]
      have hwithin : Within text (places ||| f places) := by
        intro j hj
        rcases (hseen j).mp hj with hj | ⟨i, _, hij⟩
        · exact hplaces j hj
        · exact hij.le.2
      rw [Function.iterate_succ_apply, ih _ hwithin]
      simp only [hseen]
      constructor
      · rintro ⟨j, hj | ⟨i, hi, hij⟩, m, hm, hrepeats⟩
        · exact ⟨j, hj, m, by omega, hrepeats⟩
        · exact ⟨i, hi, m + 1, by omega, .more hij hrepeats⟩
      · rintro ⟨i, hi, m, hm, hrepeats⟩
        cases hrepeats with
        | none hle => exact ⟨_, Or.inl hi, 0, Nat.zero_le _, .none hle⟩
        | @more m _ j _ hij hrest => exact ⟨j, Or.inr ⟨i, hi, hij⟩, m, by omega, hrest⟩

/-- The map of a repetition follows its matches. -/
theorem follows_times {least : Nat} {most : Option Nat} (hmost : ∀ n ∈ most, least ≤ n) :
    Follows text
      (fun places =>
        reach f ((most.map (· - least)).getD (text.length + 1)) (iterate f least places))
      (Matches text (.times body least most)) := by
  refine ((follows_iterate h least).comp (follows_reach h _) fun i j hij => hij.le.2).congr
    fun i k => ?_
  rw [matches_times_iff]
  constructor
  · rintro ⟨j, hneeded, m, hm, hmore⟩
    refine ⟨least + m, by omega, fun n hn => ?_, Repeats.add_iff.mpr ⟨j, hneeded, hmore⟩⟩
    have hle := hmost n hn
    obtain rfl : most = some n := hn
    simp only [Option.map_some, Option.getD_some] at hm
    omega
  · rintro ⟨n, hleast, hn, hrepeats⟩
    obtain ⟨m, rfl⟩ := Nat.exists_eq_add_of_le hleast
    rcases Repeats.add_iff.mp hrepeats with ⟨j, hneeded, hmore⟩
    -- Without an upper bound the search stops after as many rounds as the text has places;
    -- repetitions that take nothing can be left out, so that is enough.
    rcases hmore.shorten with ⟨m', hm', hlength, hmore'⟩
    refine ⟨j, hneeded, m', ?_, hmore'⟩
    have hle := hmore.le
    cases most with
    | none =>
        simp only [Option.map_none, Option.getD_none]
        omega
    | some most =>
        have hbound := hn most rfl
        simp only [Option.map_some, Option.getD_some]
        omega

end Repetition

/-- The map of a pattern follows its matches. -/
theorem follows_ends {p : Pattern} (hp : p.Counted) :
    Follows text ((Plan.of text p).ends (text.length + 1)) (Matches text p) := by
  -- One case for each way to build a pattern; repetitions and groups were done above.
  induction p with
  | empty =>
      intro places hplaces j
      constructor
      · intro hj
        exact ⟨j, hj, .empty (hplaces j hj)⟩
      · rintro ⟨i, hi, _ | _⟩
        exact hi
  | set set =>
      intro places hplaces j
      simp only [Plan.of, ends, Nat.testBit_shiftLeft, Nat.testBit_and, Bool.and_eq_true,
        decide_eq_true_eq, testBit_setPlaces]
      constructor
      · rintro ⟨hj, hbegin, c, hget, hc⟩
        have hmatch := Matches.set hget hc
        rw [Nat.sub_add_cancel hj] at hmatch
        exact ⟨j - 1, hbegin, hmatch⟩
      · rintro ⟨i, hi, _ | ⟨hget, hc⟩⟩
        exact ⟨by omega, hi, _, hget, hc⟩
  | «at» condition =>
      intro places hplaces j
      simp only [Plan.of, ends, Nat.testBit_and, Bool.and_eq_true, testBit_conditionPlaces]
      constructor
      · rintro ⟨hj, hle, hholds⟩
        refine ⟨j, hj, .at hle ?_⟩
        cases j <;> exact hholds
      · rintro ⟨i, hi, _ | _ | ⟨hle, hholds⟩⟩
        refine ⟨hi, hle, ?_⟩
        cases j <;> exact hholds
  | cat a b iha ihb =>
      exact ((iha hp.1).comp (ihb hp.2) fun _ _ h => h.le.2).congr
        fun _ _ => matches_cat_iff.symm
  | alt a b iha ihb =>
      intro places hplaces j
      simp only [Plan.of, ends, Nat.testBit_or, Bool.or_eq_true, iha hp.1 places hplaces j,
        ihb hp.2 places hplaces j]
      constructor
      · rintro (⟨i, hi, h⟩ | ⟨i, hi, h⟩)
        · exact ⟨i, hi, .altLeft h⟩
        · exact ⟨i, hi, .altRight h⟩
      · rintro ⟨i, hi, h⟩
        cases h with
        | altLeft h => exact Or.inl ⟨i, hi, h⟩
        | altRight h => exact Or.inr ⟨i, hi, h⟩
  | times body least most ih =>
      have h := follows_times (ih hp.2) hp.1
      cases most <;> exact h
  | group number body ih => exact (ih hp).congr fun _ _ => matches_group_iff.symm

end Plan

namespace Pattern

/-- A search finds a match exactly if there is one. -/
theorem occursIn_iff {p : Pattern} (hp : p.Counted) (text : List Char) :
    p.occursIn text = true ↔ p.Occurs text := by
  -- The search starts at every place of the text, the one behind its end included.
  have hall (i : Nat) : ((1 <<< (text.length + 1)) - 1).testBit i = true ↔ i ≤ text.length := by
    rw [Nat.one_shiftLeft, Nat.testBit_two_pow_sub_one, decide_eq_true_eq, Nat.lt_succ_iff]
  have hends := Plan.follows_ends hp _ fun i hi => (hall i).mp hi
  simp only [occursIn, bne_iff_ne, Occurs]
  constructor
  · intro h
    -- A number other than zero has a bit set, which is where some match ends.
    rcases Nat.exists_testBit_of_ne_zero h with ⟨j, hj⟩
    rcases (hends j).mp hj with ⟨i, _, hij⟩
    exact ⟨i, j, hij⟩
  · rintro ⟨i, j, hij⟩ hzero
    have hj := (hends j).mpr ⟨i, (hall i).mpr (hij.le.1.trans hij.le.2), hij⟩
    rw [hzero, Nat.zero_testBit] at hj
    cases hj

end Pattern

end Reckon
