import Reckon.Operator
import Reckon.Operation
import Reckon.Proofs.PatternGroups

/-!
# Full Matches

A text is matched from its start to its end by setting the pattern in parentheses between the
two anchors. The pattern is set there as it is written, and the whole is read anew. That it is
then one group between the anchors is not a matter of course:

* it may close the parenthesis itself, and open another one for the parenthesis behind it;
* it may end in a comment, in which the parenthesis behind it is lost;
* it may be nested just as deeply, or be just as large, as is allowed, and the limits are kept
  by the whole.

Where none of this makes a difference, the pattern is `Pattern.Enclosed`, and these are the
patterns for which the operator asks for a full match, and refuses what is not valid
(`Operator.apply_regex_iff_enclosed`).

## Main definitions

* `Pattern.wrapped`: A notation in parentheses between the anchors.
* `Pattern.enclose`: A pattern in parentheses between the anchors.
* `Pattern.Unopened`: A parenthesis is closed that has not been opened.
* `Pattern.Enclosed`: The parentheses are those of one group.

## Theorems

* `Pattern.parse?_wrapped`: How a notation is read in parentheses.
* `Pattern.occurs_enclose_iff`: What is found between the anchors is the whole text.
* `Pattern.enclosed_iff`: Notations that are valid in parentheses if they are on their own.
* `Operator.apply_regex_iff_enclosed`: For which patterns a match is a full match.
-/

namespace Reckon

namespace Pattern

open Reading

/-- A notation in parentheses between the anchors. -/
def wrapped (cs : List Char) : List Char :=
  '^' :: '(' :: '?' :: ':' :: (cs ++ [')', '$'])

theorem toList_wrapped (text : String) :
    ("^(?:" ++ text ++ ")$").toList = wrapped text.toList := by
  rw [String.toList_append, String.toList_append]
  rfl

/-- A pattern in parentheses between the anchors. -/
def enclose (read : Layered Pattern) : Layered Pattern :=
  ⟨.cat (.at .textStart) (.cat (.group none read.value) (.cat (.at .textEnd) .empty)),
    read.depth + 2⟩

/-- A notation closes a parenthesis that it has not opened. -/
def Unopened (cs : List Char) : Prop := Overruns {} cs

theorem not_unopened_of_parse {cs : List Char} {read : Layered Pattern}
    (h : parse? cs = some read) : ¬ Unopened cs := by
  intro hopen
  have hnone : parse? cs = none := hopen.rest?_eq_none
  rw [h] at hnone
  cases hnone

/-! ### Reading -/

/-- The outermost group, with the anchor that stands before the parentheses. -/
def anchored : OpenGroup := OpenGroup.add ⟨{}, none, [], []⟩ ⟨.at .textStart, 0⟩

theorem parse?_wrapped_eq_rest? (cs : List Char) :
    parse? (wrapped cs) = (Reading.within {} [anchored]).rest? (cs ++ [')', '$']) := by
  change rest? {} (wrapped cs) = _
  rw [wrapped, rest?_of_skip_cons rfl]
  change rest? _ ('(' :: '?' :: ':' :: (cs ++ [')', '$'])) = _
  rw [rest?_of_skip_cons rfl]
  rfl

theorem ending_dollar : Ending [')', '$'] := ⟨['$'], rfl, Or.inr rfl⟩

theorem ending_alone : Ending [')'] := ⟨[], rfl, Or.inl rfl⟩

/-- The parenthesis and the anchor behind a notation. Where a group is open, the parenthesis
    is taken for the end of that one. -/
theorem rest?_dollar_of_rooted {s : Reading} (hs : s.Rooted) :
    (s.within [anchored]).rest? [')', '$'] = s.whole?.map enclose := by
  rw [rest?_of_skip_cons (ending_dollar.skip _)]
  -- The parenthesis closes the group around the pattern only if none inside is open.
  cases houter : s.outer with
  | nil =>
      have houter' : (s.within [anchored]).outer = [anchored] := by
        rw [within, houter, List.nil_append]
      have hroot : s.root = s.group := by
        rw [root, houter]
        rfl
      have hflags := hs.1
      have hnumber := hs.2
      rw [hroot] at hflags hnumber
      have hclose : s.group.close =
          ⟨.group none s.group.body.value, s.group.body.depth + 1⟩ := by
        rw [OpenGroup.close, hnumber]
      rw [step?_close_of_cons houter', Option.bind_some, rest?_dollar, within, hflags, hclose,
        whole?, whole?, houter]
      simp [enclose, anchored, Reading.add, OpenGroup.add, OpenGroup.body, OpenGroup.sequence]
      rfl
  | cons enclosing outer =>
      have houter' : (s.within [anchored]).outer = enclosing :: (outer ++ [anchored]) := by
        rw [within, houter, List.cons_append]
      have hopen : s.whole? = none := whole?_of_open (by simp [houter])
      rw [step?_close_of_cons houter', Option.bind_some, hopen]
      exact rest?_eq_none_of_open (by simp) ending_dollar (List.suffix_refl _)

/-- How a notation is read in parentheses, unless it closes them itself. -/
theorem parse?_wrapped {cs : List Char} (h : ¬ Unopened cs) :
    parse? (wrapped cs) =
      (parse? cs).bind fun read =>
        if (parse? (cs ++ [')'])).isSome then none else some (enclose read) := by
  have halone : parse? cs = rest? {} cs := rfl
  have hbehind : parse? (cs ++ [')']) = (Reading.within {} []).rest? (cs ++ [')']) := rfl
  rw [parse?_wrapped_eq_rest?, halone, hbehind]
  cases inParentheses {} cs with
  | overruns hover => exact absurd hover h
  | failed hnone hw => rw [hnone, hw _ _ (by simp) ending_dollar, Option.bind_none]
  | kept s hs hwhole hw =>
      rw [hwhole, hw _ _ ending_dollar, hw _ _ ending_alone,
        rest?_dollar_of_rooted hs.rooted]
      cases hread : s.whole? with
      | none => rfl
      | some read =>
          -- The parenthesis on its own is one too many.
          have houter : s.outer = [] := by
            by_contra hopen
            rw [whole?_of_open hopen] at hread
            cases hread
          have hclose : (s.within []).rest? [')'] = none := by
            rw [within_nil, rest?_of_skip_cons (ending_alone.skip _), step?_close_of_nil houter,
              Option.bind_none]
          rw [hclose]
          rfl
  | hidden s hs hwhole hw =>
      rw [hwhole, hw _ _ ending_dollar, hw _ _ ending_alone, within_nil,
        whole?_of_open (by simp [within])]
      cases s.whole? <;> rfl

/-! ### Matching -/

theorem matches_textStart_iff {text : List Char} {i j : Nat} :
    Matches text (.at .textStart) i j ↔ i = 0 ∧ j = 0 := by
  constructor
  · rintro (_ | _ | ⟨hle, hholds⟩)
    cases i with
    | zero => exact ⟨rfl, rfl⟩
    | succ i =>
        -- There is a character in front.
        have hget : text[i]? = some text[i] := List.getElem?_eq_getElem hle
        simp [Condition.holdsAt, Condition.holds, Condition.before?, hget] at hholds
  · rintro ⟨rfl, rfl⟩
    exact .at (Nat.zero_le _) rfl

theorem matches_textEnd_iff {text : List Char} {i j : Nat} :
    Matches text (.at .textEnd) i j ↔ i = text.length ∧ j = text.length := by
  constructor
  · rintro (_ | _ | ⟨hle, hholds⟩)
    have hget : text.length ≤ i := by
      simpa [Condition.holdsAt, Condition.holds] using hholds
    exact ⟨Nat.le_antisymm hle hget, Nat.le_antisymm hle hget⟩
  · rintro ⟨rfl, rfl⟩
    exact .at (Nat.le_refl _) (by simp [Condition.holdsAt, Condition.holds])

/-- What is found of a pattern between the anchors is the whole text. -/
theorem occurs_enclose_iff (read : Layered Pattern) (text : List Char) :
    (enclose read).value.Occurs text ↔ read.value.MatchesWhole text := by
  constructor
  · rintro ⟨i, l, _ | _ | _ | ⟨hstart, _ | _ | _ | ⟨_ | _ | _ | _ | _ | _ | _ | _ | hbody,
      _ | _ | _ | ⟨hend, _⟩⟩⟩⟩
    rw [(matches_textStart_iff.mp hstart).2, (matches_textEnd_iff.mp hend).1] at hbody
    exact hbody
  · intro h
    refine ⟨0, text.length, .cat (matches_textStart_iff.mpr ⟨rfl, rfl⟩) (.cat (.group h) ?_)⟩
    exact .cat (matches_textEnd_iff.mpr ⟨rfl, rfl⟩) (.empty (Nat.le_refl _))

/-! ### Valid patterns -/

/-- What is read keeps the limits on depth and size. -/
def Bounded (read : Layered Pattern) : Prop :=
  read.depth ≤ depthLimit ∧ read.value.fits = true

theorem isSome_ofNotation?_iff {cs : List Char} {read : Layered Pattern}
    (h : parse? cs = some read) : (ofNotation? cs).isSome = true ↔ Bounded read := by
  rw [Option.isSome_iff_exists]
  constructor
  · rintro ⟨p, hp⟩
    rcases ofNotation?_eq_some_iff.mp hp with ⟨depth, hparse, hlimits⟩
    obtain rfl : read = ⟨p, depth⟩ := Option.some.inj (h.symm.trans hparse)
    exact hlimits
  · intro hlimits
    exact ⟨read.value, ofNotation?_eq_some_iff.mpr ⟨read.depth, h, hlimits⟩⟩

theorem ofNotation?_of_parse_none {cs : List Char} (h : parse? cs = none) :
    ofNotation? cs = none := by
  rw [ofNotation?, h]

/-- In parentheses between the anchors a notation is the one group that they make of it. -/
structure Enclosed (cs : List Char) : Prop where
  /-- If it closes a parenthesis that it has not opened, then it is not valid there either. -/
  closed : Unopened cs → ofNotation? (wrapped cs) = none
  /-- If it is valid, then the parenthesis behind it is read, and is not in a comment. -/
  uncommented : (ofNotation? cs).isSome = true → parse? (cs ++ [')']) = none
  /-- The parentheses and the anchors make no difference to whether it keeps the limits. -/
  limited : ∀ read, parse? cs = some read → parse? (cs ++ [')']) = none →
    (Bounded (enclose read) ↔ Bounded read)

/-- A notation that can be read is enclosed if the parenthesis behind it is read and the limits
    are judged alike. -/
theorem enclosed_iff_of_parse {cs : List Char} {read : Layered Pattern}
    (h : parse? cs = some read) :
    Enclosed cs ↔
      (Bounded read → parse? (cs ++ [')']) = none) ∧
        (parse? (cs ++ [')']) = none → (Bounded (enclose read) ↔ Bounded read)) := by
  have hopen := not_unopened_of_parse h
  have hvalid := isSome_ofNotation?_iff h
  constructor
  · intro henclosed
    exact ⟨fun hbounded => henclosed.uncommented (hvalid.mpr hbounded), henclosed.limited read h⟩
  · -- A pattern that reads has no parenthesis to spare, so two conditions are left.
    rintro ⟨huncommented, hlimited⟩
    refine ⟨fun h => absurd h hopen, fun hsome => huncommented (hvalid.mp hsome), ?_⟩
    intro read' hread hbehind
    rw [h] at hread
    cases hread
    exact hlimited hbehind

/-- A notation is enclosed exactly if it is valid in parentheses if it is on its own, and not
    otherwise. -/
theorem enclosed_iff (cs : List Char) :
    Enclosed cs ↔ ((ofNotation? (wrapped cs)).isSome = true ↔ (ofNotation? cs).isSome = true) := by
  cases hparse : parse? cs with
  | none =>
      have hnone := ofNotation?_of_parse_none hparse
      have hwrapped : ¬ Unopened cs → ofNotation? (wrapped cs) = none := by
        intro hopen
        refine ofNotation?_of_parse_none ?_
        rw [parse?_wrapped hopen, hparse, Option.bind_none]
      rw [hnone]
      simp only [Option.isSome_none, Bool.false_eq_true, iff_false, Bool.not_eq_true,
        Option.isSome_eq_false_iff, Option.isNone_iff_eq_none]
      constructor
      · intro h
        -- A pattern with a parenthesis to spare may read once it is wrapped, any other fails again.
        by_cases hopen : Unopened cs
        · exact h.closed hopen
        · exact hwrapped hopen
      · intro h
        refine ⟨fun _ => h, fun hsome => ?_, fun read hread => ?_⟩
        · rw [hnone] at hsome
          cases hsome
        · rw [hparse] at hread
          cases hread
  | some read =>
      have hopen := not_unopened_of_parse hparse
      have hwrapped := parse?_wrapped hopen
      rw [hparse, Option.bind_some] at hwrapped
      rw [enclosed_iff_of_parse hparse, isSome_ofNotation?_iff hparse]
      cases hbehind : parse? (cs ++ [')']) with
      | none =>
          rw [hbehind, Option.isSome_none, if_neg (by decide)] at hwrapped
          rw [isSome_ofNotation?_iff hwrapped]
          simp
      | some _ =>
          rw [hbehind, Option.isSome_some, if_pos rfl] at hwrapped
          rw [ofNotation?_of_parse_none hwrapped]
          simp

/-- Where a notation is valid in parentheses and on its own, what is found in a text is a match
    of the whole text. -/
theorem occursIn_wrapped_iff {cs : List Char} {p q : Pattern} (hp : ofNotation? cs = some p)
    (hq : ofNotation? (wrapped cs) = some q) (text : List Char) :
    q.occursIn text = true ↔ p.MatchesWhole text := by
  rcases ofNotation?_eq_some_iff.mp hp with ⟨depth, hparse, _⟩
  rcases ofNotation?_eq_some_iff.mp hq with ⟨depth', hparse', _⟩
  have hopen := not_unopened_of_parse hparse
  have hwrapped := parse?_wrapped hopen
  rw [hparse', hparse, Option.bind_some] at hwrapped
  split_ifs at hwrapped
  cases hwrapped
  rw [occursIn_iff (counted_of_parse hparse')]
  exact occurs_enclose_iff ⟨p, depth⟩ text

end Pattern

namespace Operator

open Pattern

section Regex

variable (left right : Value) (rounding : Rounding)

theorem apply_regex_of_none (h : ofNotation? (wrapped right.text.toList) = none) :
    regex.apply left right rounding = .fail (.failure (.invalidPattern right.text)) := by
  simp only [apply, Operation.matchPattern, toList_wrapped, h]

theorem apply_regex_of_some {q : Pattern} (h : ofNotation? (wrapped right.text.toList) = some q) :
    regex.apply left right rounding = .push (.bool (q.occursIn left.text.toList)) := by
  simp only [apply, Operation.matchPattern, toList_wrapped, h]

/-- Whether a pattern matches is a full match of the pattern as it is written exactly for the
    patterns that the parentheses enclose: one that is not valid is an error, and one that is
    valid matches the texts of which it matches the whole. -/
theorem apply_regex_iff_enclosed :
    ((ofNotation? right.text.toList = none →
        regex.apply left right rounding = .fail (.failure (.invalidPattern right.text))) ∧
      ∀ p, ofNotation? right.text.toList = some p →
        ∃ b, regex.apply left right rounding = .push (.bool b) ∧
          (b = true ↔ p.MatchesWhole left.text.toList)) ↔
    Enclosed right.text.toList := by
  rw [enclosed_iff]
  -- By whether the pattern reads, and whether it does when it is wrapped.
  cases hp : ofNotation? right.text.toList with
  | none =>
      cases hq : ofNotation? (wrapped right.text.toList) with
      | none => simp [apply_regex_of_none left right rounding hq]
      | some q => simp [apply_regex_of_some left right rounding hq]
  | some p =>
      cases hq : ofNotation? (wrapped right.text.toList) with
      | none => simp [apply_regex_of_none left right rounding hq]
      | some q =>
          simpa [apply_regex_of_some left right rounding hq] using
            occursIn_wrapped_iff hp hq left.text.toList

end Regex

/-- The parenthesis behind it closes the group that the pattern opens. -/
example : ¬ Enclosed "a)|(?:b".toList := by
  rw [enclosed_iff]
  decide +kernel

/-- The parenthesis behind it is in the comment. -/
example : ¬ Enclosed "(?x)a#b".toList := by
  rw [enclosed_iff]
  decide +kernel

example : Enclosed "a|(?:b)".toList := by
  rw [enclosed_iff]
  decide +kernel

end Operator

end Reckon
