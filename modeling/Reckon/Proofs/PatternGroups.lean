import Reckon.Proofs.PatternReading
import Reckon.Proofs.PatternSearch

/-!
# The Groups of a Notation

A step of the reading of a notation does one of three things to the groups that are open
(`Pattern.Reading.step?_cases`): the innermost one grows, a new one is opened in it, or it is
closed and becomes a part of the one around it. What holds of every group while it is read
follows from that. The outermost group keeps its flags and does not capture
(`Pattern.Reading.Rooted`), and no repetition is ever allowed fewer times than it is needed
(`Pattern.Reading.Counted`).

## Main definitions

* `Pattern.OpenGroup.Grows`: A group with something more in it.
* `Pattern.Reading.Rooted`: The outermost group is as it was in the beginning.
* `Pattern.Reading.Counted`: All that has been read is counted.

## Theorems

* `Pattern.Reading.step?_cases`: What a step does to the groups.
* `Pattern.Reading.LeadsTo.rooted`, `Pattern.Reading.LeadsTo.counted`: What holds of all
  readings.
* `Pattern.counted_of_parse`: Every pattern that is read is counted.
-/

namespace Reckon

namespace Pattern

theorem counts?_le {flags : Flags} {cs rest : List Char} {least : Nat} {most : Option Nat}
    (h : counts? flags cs = some (least, most, rest)) : ∀ n ∈ most, least ≤ n := by
  -- One number is both bounds, a comma without a number leaves the upper one open, and two
  -- numbers are compared by the reader itself.
  unfold counts? at h
  split at h
  · cases h
    intro n hn
    cases hn
    exact Nat.le_refl _
  · split at h
    · cases h
      intro n hn
      cases hn
    · split at h
      · split_ifs at h with hle
        cases h
        intro n hn
        cases hn
        exact hle
      · cases h
  · cases h

namespace OpenGroup

/-- A group with something more in it. -/
inductive Grows (g : OpenGroup) : OpenGroup → Prop where
  | part {part : Layered Pattern} : part.value.Counted → Grows g (g.add part)
  | flags : Grows g g.addFlags
  | alternative : Grows g g.nextAlternative
  | repeated {g' : OpenGroup} {least : Nat} {most : Option Nat} :
      (∀ n ∈ most, least ≤ n) → g.repeatLast? least most = some g' → Grows g g'

/-- All that a group holds is counted. -/
structure Counted (g : OpenGroup) : Prop where
  alternatives : ∀ a ∈ g.alternatives, a.value.Counted
  parts : ∀ part, some part ∈ g.parts → part.value.Counted

variable {g g' : OpenGroup}

theorem Grows.flags_number (h : g.Grows g') : g'.flags = g.flags ∧ g'.number = g.number := by
  cases h with
  | part => exact ⟨rfl, rfl⟩
  | flags => exact ⟨rfl, rfl⟩
  | alternative => exact ⟨rfl, rfl⟩
  | repeated _ h =>
      unfold repeatLast? at h
      split at h
      · cases h
        exact ⟨rfl, rfl⟩
      · cases h

theorem Counted.sequence (h : g.Counted) : g.sequence.value.Counted := by
  have hparts : ∀ part ∈ g.parts.reverse.filterMap id, part.value.Counted := by
    intro part hpart
    rw [List.mem_filterMap] at hpart
    rcases hpart with ⟨_, hmem, rfl⟩
    exact h.parts part (List.mem_reverse.mp hmem)
  unfold OpenGroup.sequence
  dsimp only
  -- The parts are put together from the right, one after another.
  generalize g.parts.reverse.filterMap id = parts at hparts
  induction parts with
  | nil => trivial
  | cons part parts ih =>
      exact ⟨hparts part List.mem_cons_self,
        ih fun p hp => hparts p (List.mem_cons_of_mem _ hp)⟩

theorem Counted.body (h : g.Counted) : g.body.value.Counted := by
  unfold OpenGroup.body
  split
  · exact h.sequence
  · have halternatives := h.alternatives
    have hsequence := h.sequence
    dsimp only
    generalize g.alternatives = alternatives at halternatives
    generalize g.sequence = all at hsequence
    -- Each earlier alternative is put in front of what was assembled so far.
    induction alternatives generalizing all with
    | nil => exact hsequence
    | cons a alternatives ih =>
        exact ih (fun b hb => halternatives b (List.mem_cons_of_mem _ hb)) _
          ⟨halternatives a List.mem_cons_self, hsequence⟩

theorem Counted.add (h : g.Counted) {part : Layered Pattern} (hpart : part.value.Counted) :
    (g.add part).Counted where
  alternatives := h.alternatives
  parts := by
    intro p hp
    rcases List.mem_cons.mp hp with heq | hp
    · cases heq
      exact hpart
    · exact h.parts p hp

theorem Grows.counted (hgrows : g.Grows g') (h : g.Counted) : g'.Counted := by
  -- A group grows by a part, by flags, by an alternative or by a repetition of its last
  -- part, and only the last of these writes counts.
  cases hgrows with
  | part hpart => exact h.add hpart
  | flags =>
      refine ⟨h.alternatives, fun p hp => ?_⟩
      rcases List.mem_cons.mp hp with heq | hp
      · cases heq
      · exact h.parts p hp
  | alternative =>
      refine ⟨fun a ha => ?_, fun p hp => by cases hp⟩
      rcases List.mem_cons.mp ha with rfl | ha
      · exact h.sequence
      · exact h.alternatives a ha
  | repeated hle hrepeated =>
      unfold repeatLast? at hrepeated
      split at hrepeated
      · rename_i part parts hparts
        cases hrepeated
        refine ⟨h.alternatives, fun p hp => ?_⟩
        rcases List.mem_cons.mp hp with heq | hp
        · cases heq
          exact ⟨hle, h.parts part (hparts ▸ List.mem_cons_self)⟩
        · exact h.parts p (hparts ▸ List.mem_cons_of_mem _ hp)
      · cases hrepeated

end OpenGroup

namespace Reading

variable {r s : Reading} {c : Char} {cs rest : List Char}

/-- What a step does to the groups that are open. -/
theorem step?_cases (h : r.step? c cs = some (s, rest)) :
    (r.group.Grows s.group ∧ s.outer = r.outer) ∨
      (∃ flags number, s.group = ⟨flags, number, [], []⟩ ∧ s.outer = r.group :: r.outer) ∨
      ∃ enclosing, r.outer = enclosing :: s.outer ∧ s.group = enclosing.add r.group.close := by
  have hrepeated {least : Nat} {most : Option Nat} {tail : List Char}
      (hle : ∀ n ∈ most, least ≤ n)
      (h : (r.repeatLast? least most).map (fun r => (r, dropLazy tail)) = some (s, rest)) :
      r.group.Grows s.group ∧ s.outer = r.outer := by
    unfold repeatLast? at h
    cases hgroup : r.group.repeatLast? least most with
    | none =>
        rw [hgroup] at h
        cases h
    | some g =>
        rw [hgroup] at h
        cases h
        exact ⟨.repeated hle hgroup, rfl⟩
  -- The character decides: parentheses open and close a group, all others let the open
  -- group grow.
  unfold step? at h
  dsimp only at h
  split at h
  · rcases Option.bind_eq_some_iff.mp h with ⟨o, _, henter⟩
    cases o with
    | capturing name tail =>
        unfold enter? at henter
        dsimp only at henter
        split_ifs at henter
        cases henter
        exact .inr (.inl ⟨_, _, rfl, rfl⟩)
    | plain flags tail =>
        cases henter
        exact .inr (.inl ⟨_, _, rfl, rfl⟩)
    | flags flags tail =>
        cases henter
        exact .inl ⟨.flags, rfl⟩
  · rcases Option.map_eq_some_iff.mp h with ⟨s', hleave, heq⟩
    cases heq
    unfold leave? at hleave
    split at hleave
    · cases hleave
    · rename_i enclosing outer houter
      cases hleave
      exact .inr (.inr ⟨enclosing, houter, rfl⟩)
  · cases h
    exact .inl ⟨.alternative, rfl⟩
  · exact .inl (hrepeated (by simp) h)
  · exact .inl (hrepeated (by simp) h)
  · exact .inl (hrepeated (by simp) h)
  · rcases Option.bind_eq_some_iff.mp h with ⟨⟨least, most, tail⟩, hcounts, hrepeat⟩
    exact .inl (hrepeated (counts?_le hcounts) hrepeat)
  · rcases Option.map_eq_some_iff.mp h with ⟨p, _, heq⟩
    cases heq
    exact .inl ⟨.part trivial, rfl⟩
  · rcases Option.map_eq_some_iff.mp h with ⟨⟨escape, tail⟩, _, heq⟩
    cases escape <;> cases heq <;> exact .inl ⟨.part trivial, rfl⟩
  · rcases Option.map_eq_some_iff.mp h with ⟨dot, hdot, heq⟩
    cases heq
    rcases Option.map_eq_some_iff.mp hdot with ⟨_, _, rfl⟩
    exact .inl ⟨.part trivial, rfl⟩
  · cases h
    exact .inl ⟨.part trivial, rfl⟩
  · cases h
    exact .inl ⟨.part trivial, rfl⟩
  · cases h
    exact .inl ⟨.part trivial, rfl⟩

/-- All that has been read is counted. -/
def Counted (r : Reading) : Prop := ∀ g ∈ r.group :: r.outer, g.Counted

/-- The outermost group that is open. -/
def root (r : Reading) : OpenGroup := r.outer.getLast?.getD r.group

/-- The outermost group has no flags and does not capture. -/
def Rooted (r : Reading) : Prop := r.root.flags = {} ∧ r.root.number = none

theorem Counted.of_step (hr : r.Counted) (h : r.step? c cs = some (s, rest)) : s.Counted := by
  have hgroup := hr _ List.mem_cons_self
  have houter : ∀ g ∈ r.outer, g.Counted := fun g hg => hr g (List.mem_cons_of_mem _ hg)
  intro g hg
  -- The open group grows, a new one starts empty, or the open one becomes a part of the
  -- one around it.
  rcases step?_cases h with ⟨hgrows, heq⟩ | ⟨_, _, hnew, heq⟩ | ⟨enclosing, heq, hclosed⟩
  · rcases List.mem_cons.mp hg with rfl | hg
    · exact hgrows.counted hgroup
    · exact houter g (heq ▸ hg)
  · rcases List.mem_cons.mp hg with rfl | hg
    · rw [hnew]
      exact ⟨fun a ha => (by cases ha), fun p hp => (by cases hp)⟩
    · exact hr g (heq ▸ hg)
  · rcases List.mem_cons.mp hg with rfl | hg
    · rw [hclosed]
      exact (houter enclosing (heq ▸ List.mem_cons_self)).add hgroup.body
    · exact houter g (heq ▸ List.mem_cons_of_mem _ hg)

theorem Rooted.of_step (hr : r.Rooted) (h : r.step? c cs = some (s, rest)) : s.Rooted := by
  have hroot : s.root.flags = r.root.flags ∧ s.root.number = r.root.number := by
    unfold root
    rcases step?_cases h with ⟨hgrows, heq⟩ | ⟨_, _, _, heq⟩ | ⟨enclosing, heq, hclosed⟩
    · rw [heq]
      cases r.outer.getLast? with
      | none => exact hgrows.flags_number
      | some g => exact ⟨rfl, rfl⟩
    · rw [heq, List.getLast?_cons]
      exact ⟨rfl, rfl⟩
    · rw [heq, List.getLast?_cons, hclosed]
      cases s.outer.getLast? <;> exact ⟨rfl, rfl⟩
  exact ⟨hroot.1.trans hr.1, hroot.2.trans hr.2⟩

theorem LeadsTo.counted (h : LeadsTo {} s) : s.Counted := by
  refine h.invariant Counted.of_step fun g hg => ?_
  rw [List.mem_singleton.mp hg]
  exact ⟨fun a ha => (by cases ha), fun p hp => (by cases hp)⟩

theorem LeadsTo.rooted (h : LeadsTo {} s) : s.Rooted :=
  h.invariant Rooted.of_step ⟨rfl, rfl⟩

end Reading

/-- Every pattern that is read is counted. -/
theorem counted_of_parse {cs : List Char} {read : Layered Pattern} (h : parse? cs = some read) :
    read.value.Counted := by
  change Reading.rest? {} cs = some read at h
  have hbody (s : Reading) (hs : Reading.LeadsTo {} s) (hwhole : s.whole? = some read) :
      read.value.Counted := by
    unfold Reading.whole? at hwhole
    split_ifs at hwhole
    cases hwhole
    exact (hs.counted _ List.mem_cons_self).body
  -- However the reading ends, the group left open at the end was built step by step.
  cases Reading.inParentheses {} cs with
  | overruns hover =>
      rw [hover.rest?_eq_none] at h
      cases h
  | failed hnone _ =>
      rw [hnone] at h
      cases h
  | kept s hs hwhole _ => exact hbody s hs (hwhole.symm.trans h)
  | hidden s hs hwhole _ => exact hbody s hs (hwhole.symm.trans h)

end Pattern

end Reckon
