import Mathlib.Logic.Relation
import Reckon.Proofs.PatternClasses

/-!
# Reading in Parentheses

A notation is read step by step. What every step does in parentheses and on its own has been
said (`Pattern.Reading.steady_step`), so what becomes of a whole notation follows by induction
on what is left of it (`Pattern.Reading.inParentheses`). There are four ways:

* a parenthesis is closed that has not been opened, and after that nothing can be said;
* the notation cannot be read, and neither can it in parentheses: where a step takes the
  closing parenthesis for its own, the group around is never closed;
* it can be read, and the closing parenthesis is left to be read;
* it can be read, and the closing parenthesis stands in a comment.

## Main definitions

* `Pattern.Reading.rest?`: The rest of a notation, without fuel.
* `Pattern.Reading.within`: A reading in some more groups.
* `Pattern.Reading.Overruns`: A parenthesis is closed that has not been opened.
* `Pattern.Reading.InParentheses`: The four ways.

## Theorems

* `Pattern.Reading.rest?_eq`: One step, and the rest.
* `Pattern.Reading.step?_within`: A step in some more groups.
* `Pattern.Reading.LeadsTo.invariant`: What every step keeps.
* `Pattern.Reading.inParentheses`: There are no other ways.
-/

namespace Reckon

namespace Pattern

namespace Reading

/-! ### Fuel -/

/-- Fuel for every character is enough. -/
theorem run?_succ (fuel : Nat) (r : Reading) (cs : List Char) (h : cs.length < fuel) :
    run? (fuel + 1) r cs = run? fuel r cs := by
  induction fuel generalizing r cs with
  | zero => omega
  | succ fuel ih =>
      have hlength := r.flags.length_skip_le cs
      rw [run?, run?]
      rcases hskip : r.flags.skip cs with _ | ⟨c, tail⟩
      · rfl
      rw [hskip, List.length_cons] at hlength
      dsimp only
      cases hstep : r.step? c tail with
      | none => rfl
      | some p =>
          -- A step leaves a suffix of the text behind its first character.
          have hrest := ((r.steady_step c).suffix hstep).length_le
          exact ih p.1 p.2 (by omega)

/-- The rest of a notation. -/
def rest? (r : Reading) (cs : List Char) : Option (Layered Pattern) :=
  run? (cs.length + 1) r cs

theorem run?_eq_rest? {fuel : Nat} (r : Reading) {cs : List Char} (h : cs.length < fuel) :
    run? fuel r cs = r.rest? cs := by
  induction h with
  | refl => rfl
  | @step fuel hle ih => rw [run?_succ fuel r cs hle, ih]

/-- One step, and the rest. -/
theorem rest?_eq (r : Reading) (cs : List Char) :
    r.rest? cs =
      match r.flags.skip cs with
      | [] => r.whole?
      | c :: tail => (r.step? c tail).bind fun p => p.1.rest? p.2 := by
  have hlength := r.flags.length_skip_le cs
  rw [rest?, run?]
  rcases hskip : r.flags.skip cs with _ | ⟨c, tail⟩
  · rfl
  rw [hskip, List.length_cons] at hlength
  dsimp only
  cases hstep : r.step? c tail with
  | none => rfl
  | some p =>
      -- The fuel left is more than what is still to read, so it may be set anew.
      have hrest := ((r.steady_step c).suffix hstep).length_le
      exact run?_eq_rest? p.1 (by omega)

theorem rest?_of_skip_nil {r : Reading} {cs : List Char} (h : r.flags.skip cs = []) :
    r.rest? cs = r.whole? := by
  rw [rest?_eq, h]

theorem rest?_of_skip_cons {r : Reading} {cs tail : List Char} {c : Char}
    (h : r.flags.skip cs = c :: tail) :
    r.rest? cs = (r.step? c tail).bind fun p => p.1.rest? p.2 := by
  rw [rest?_eq, h]

theorem rest?_nil (r : Reading) : r.rest? [] = r.whole? :=
  rest?_of_skip_nil (List.suffix_nil.mp (r.flags.suffix_skip []))

/-! ### More groups around -/

/-- A reading in some more groups. -/
def within (r : Reading) (around : List OpenGroup) : Reading :=
  { r with outer := r.outer ++ around }

theorem within_nil (r : Reading) : r.within [] = r := by
  rw [within, List.append_nil]

/-- Groups around make no difference to a step, unless it leaves all others. -/
theorem step?_within (r : Reading) (around : List OpenGroup) {c : Char} (tail : List Char)
    (h : c = ')' → r.outer ≠ []) :
    (r.within around).step? c tail =
      (r.step? c tail).map fun p => (p.1.within around, p.2) := by
  -- The groups further out are looked at by nothing but the closing parenthesis of the
  -- outermost group, which the hypothesis rules out.
  have henter (o : Opening) : (r.within around).enter? o =
      (r.enter? o).map fun p => (p.1.within around, p.2) := by
    cases o with
    | capturing name rest =>
        by_cases hname : name.any r.names.contains = true <;> simp [enter?, within, hname]
    | plain flags rest => rfl
    | flags flags rest => rfl
  have hrepeated (least : Nat) (most : Option Nat) (cs : List Char) :
      ((r.within around).repeatLast? least most).map (fun r => (r, dropLazy cs)) =
        ((r.repeatLast? least most).map fun r => (r, dropLazy cs)).map
          fun p => (p.1.within around, p.2) := by
    simp only [repeatLast?, Option.map_map]
    rfl
  unfold step?
  dsimp only
  split
  · change (opening? r.flags tail).bind _ = _
    cases opening? r.flags tail with
    | none => rfl
    | some o => exact henter o
  · obtain ⟨enclosing, outer, houter⟩ := List.exists_cons_of_ne_nil (h rfl)
    simp [leave?, within, houter]
  · rfl
  · exact hrepeated 0 none tail
  · exact hrepeated 1 none tail
  · exact hrepeated 0 (some 1) tail
  · change (counts? r.flags tail).bind _ = _
    cases counts? r.flags tail with
    | none => rfl
    | some counts => exact hrepeated counts.1 counts.2.1 _
  · change (charClass? _ r.flags tail).map _ = _
    cases charClass? (2 * tail.length + 2) r.flags tail <;> rfl
  · change (escape? r.flags tail).map _ = _
    rcases escape? r.flags tail with _ | ⟨_ | _ | _, _⟩ <;> rfl
  · change r.flags.dot?.map _ = _
    cases r.flags.dot? <;> rfl
  · rfl
  · rfl
  · rfl

/-! ### In parentheses -/

theorem step?_close_of_nil {r : Reading} (h : r.outer = []) (tail : List Char) :
    r.step? ')' tail = none := by
  simp [step?, leave?, h]

theorem step?_close_of_cons {r : Reading} {enclosing : OpenGroup} {outer : List OpenGroup}
    (h : r.outer = enclosing :: outer) (tail : List Char) :
    r.step? ')' tail =
      some ({ r with
        flags := r.group.flags
        group := enclosing.add r.group.close
        outer }, tail) := by
  simp [step?, leave?, h]

/-- A notation closes a parenthesis that it has not opened. -/
inductive Overruns : Reading → List Char → Prop where
  | closing {r : Reading} {cs tail : List Char} :
      r.flags.skip cs = ')' :: tail → r.outer = [] → Overruns r cs
  | step {r s : Reading} {cs tail rest : List Char} {c : Char} :
      r.flags.skip cs = c :: tail → r.step? c tail = some (s, rest) → Overruns s rest →
      Overruns r cs

theorem Overruns.rest?_eq_none {r : Reading} {cs : List Char} (h : r.Overruns cs) :
    r.rest? cs = none := by
  induction h with
  | closing hskip houter =>
      rw [rest?_of_skip_cons hskip, step?_close_of_nil houter, Option.bind_none]
  | step hskip hstep _ ih => rw [rest?_of_skip_cons hskip, hstep, Option.bind_some, ih]

/-- A reading that steps lead to. -/
def LeadsTo : Reading → Reading → Prop :=
  Relation.ReflTransGen fun r s => ∃ c cs rest, r.step? c cs = some (s, rest)

/-- What every step keeps holds of all that steps lead to. -/
theorem LeadsTo.invariant {I : Reading → Prop}
    (hstep : ∀ {r s c cs rest}, I r → r.step? c cs = some (s, rest) → I s) {r s : Reading}
    (h : LeadsTo r s) (hr : I r) : I s := by
  induction h with
  | refl => exact hr
  | tail _ hlast ih =>
      rcases hlast with ⟨c, cs, rest, hlast⟩
      exact hstep ih hlast

/-- What becomes of a notation in parentheses. -/
inductive InParentheses (r : Reading) (cs : List Char) : Prop where
  /-- A parenthesis is closed that has not been opened. -/
  | overruns : r.Overruns cs → InParentheses r cs
  /-- It cannot be read, and in no group either. -/
  | failed :
      r.rest? cs = none →
      (∀ around w, around ≠ [] → Ending w → (r.within around).rest? (cs ++ w) = none) →
      InParentheses r cs
  /-- It can be read up to the ending. -/
  | kept (s : Reading) :
      LeadsTo r s → r.rest? cs = s.whole? →
      (∀ around w, Ending w → (r.within around).rest? (cs ++ w) = (s.within around).rest? w) →
      InParentheses r cs
  /-- It can be read, and the ending is in a comment. -/
  | hidden (s : Reading) :
      LeadsTo r s → r.rest? cs = s.whole? →
      (∀ around w, Ending w → (r.within around).rest? (cs ++ w) = (s.within around).whole?) →
      InParentheses r cs

theorem InParentheses.of_step {r s : Reading} {cs tail rest : List Char} {c : Char}
    (hskip : r.flags.skip cs = c :: tail) (hstep : r.step? c tail = some (s, rest))
    (hbehind : ∀ around w, Ending w →
      (r.within around).rest? (cs ++ w) = (s.within around).rest? (rest ++ w))
    (h : s.InParentheses rest) : r.InParentheses cs := by
  have hrest : r.rest? cs = s.rest? rest := by
    rw [rest?_of_skip_cons hskip, hstep, Option.bind_some]
  have hleads {s' : Reading} (hs : LeadsTo s s') : LeadsTo r s' :=
    .head ⟨c, tail, rest, hstep⟩ hs
  -- Each outcome of the rest is that of the whole, one step earlier.
  cases h with
  | overruns h => exact .overruns (.step hskip hstep h)
  | failed hnone hw =>
      exact .failed (hrest.trans hnone) fun around w ha he =>
        (hbehind around w he).trans (hw around w ha he)
  | kept s' hs hwhole hw =>
      exact .kept s' (hleads hs) (hrest.trans hwhole) fun around w he =>
        (hbehind around w he).trans (hw around w he)
  | hidden s' hs hwhole hw =>
      exact .hidden s' (hleads hs) (hrest.trans hwhole) fun around w he =>
        (hbehind around w he).trans (hw around w he)

theorem whole?_of_open {r : Reading} (h : r.outer ≠ []) : r.whole? = none := by
  rw [whole?, if_neg (by simpa using h)]

theorem rest?_dollar (r : Reading) : r.rest? ['$'] = (r.add r.flags.dollar 0).whole? := by
  have hskip : r.flags.skip ['$'] = ['$'] := by
    unfold Flags.skip
    split <;> rfl
  rw [rest?_of_skip_cons hskip]
  exact rest?_nil _

/-- Where a group is open and the parenthesis of an ending has been taken, the group is never
    closed. -/
theorem rest?_eq_none_of_open {r : Reading} (houter : r.outer ≠ []) {w rest : List Char}
    (he : Ending w) (hrest : rest <:+ w.tail) : r.rest? rest = none := by
  rcases he with ⟨v, rfl, rfl | rfl⟩
  · rw [List.suffix_nil.mp hrest, rest?_nil, whole?_of_open houter]
  · rcases List.suffix_cons_iff.mp hrest with rfl | hrest
    · rw [rest?_dollar]
      exact whole?_of_open houter
    · rw [List.suffix_nil.mp hrest, rest?_nil, whole?_of_open houter]

/-- There are no other ways. The induction is on what is left of the notation. -/
theorem inParentheses (r : Reading) (cs : List Char) : r.InParentheses cs := by
  induction hlength : cs.length using Nat.strongRecOn generalizing r cs with
  | ind n ih =>
      rcases r.flags.skip_append cs with hkept | ⟨hnil, hhidden⟩
      · rcases hskip : r.flags.skip cs with _ | ⟨c, tail⟩
        · -- Only blanks are left, and the ending comes directly behind them.
          refine .kept r .refl (rest?_of_skip_nil hskip) fun around w he => ?_
          have hskip' : r.flags.skip (cs ++ w) = r.flags.skip w := by
            rw [hkept w he, hskip, he.skip, List.nil_append]
          rw [rest?_eq, rest?_eq]
          change (match r.flags.skip (cs ++ w) with | [] => _ | c :: tail => _) = _
          rw [hskip']
          rfl
        by_cases hover : c = ')' ∧ r.outer = []
        · exact .overruns (.closing (hover.1 ▸ hskip) hover.2)
        have hwithin (around : List OpenGroup) (cs : List Char) :=
          r.step?_within around cs fun hc houter => hover ⟨hc, houter⟩
        have hbehind (around : List OpenGroup) (w : List Char) (he : Ending w) :
            (r.within around).rest? (cs ++ w) =
              (r.step? c (tail ++ w)).bind fun p => (p.1.within around).rest? p.2 := by
          have hskip' : (r.within around).flags.skip (cs ++ w) = c :: (tail ++ w) := by
            rw [← List.cons_append, ← hskip]
            exact hkept w he
          rw [rest?_of_skip_cons hskip', hwithin]
          cases r.step? c (tail ++ w) <;> rfl
        cases (r.steady_step c).behind tail with
        | kept s rest hstep hw =>
            have hshorter := ((r.steady_step c).suffix hstep).length_le
            have hle := r.flags.length_skip_le cs
            rw [hskip, List.length_cons] at hle
            refine .of_step hskip hstep (fun around w he => ?_) (ih _ (by omega) s rest rfl)
            rw [hbehind around w he, hw w he, Option.bind_some]
        | hidden s hstep hw =>
            refine .hidden s (.single ⟨c, tail, [], hstep⟩) ?_ fun around w he => ?_
            · rw [rest?_of_skip_cons hskip, hstep, Option.bind_some, rest?_nil]
            · rw [hbehind around w he, hw w he, Option.bind_some, rest?_nil]
        | failed hstep hw =>
            refine .failed (by rw [rest?_of_skip_cons hskip, hstep, Option.bind_none])
              fun around w ha he => ?_
            rw [hbehind around w he]
            cases hstep' : r.step? c (tail ++ w) with
            | none => rfl
            | some p =>
                -- The step has taken the parenthesis, and the groups around stay open.
                refine rest?_eq_none_of_open (fun houter => ha ?_) he (hw w he p.1 p.2 hstep')
                exact (List.append_eq_nil_iff.mp houter).2
      · refine .hidden r .refl (rest?_of_skip_nil hnil) fun around w he => ?_
        exact rest?_of_skip_nil (hhidden w he)

end Reading

end Pattern

end Reckon
