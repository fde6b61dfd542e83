import Reckon.Proofs.PatternReaders

/-!
# Readers of Classes, and of a Whole Step

A class in square brackets is read with fuel that depends on how much text is left. An ending
behind the text is a reason to take more of it, which would make no difference even where it
is not needed (`Pattern.charClass?_eq_of_le`): every bracket and every member takes a
character.

With that, a whole step of the reading of a notation is one more reader
(`Pattern.Reading.steady_step`).

## Theorems

* `Pattern.sharp_namedClass`: An ending makes no difference to a named class.
* `Pattern.steady_charClass`: A class.
* `Pattern.charClass?_eq_of_le`: Fuel that is enough.
* `Pattern.Reading.steady_step`: A step.
-/

namespace Reckon

namespace Pattern

/-! ### Named classes -/

/-- A named class from its name on. -/
def named? (negated : Bool) (cs : List Char) : Option ((Bool × CharSet) × List Char) :=
  ((Text.cutAt ':' cs).2.map ((Text.cutAt ':' cs).1, ·)).bind fun p =>
    (Text.after? [']'] p.2).bind fun tail =>
      (asciiClass? (String.ofList p.1)).map fun s => ((negated, s), tail)

theorem sharp_named (negated : Bool) : Sharp (named? negated) := by
  have hname (name : List Char) : Sharp fun cs =>
      (Text.after? [']'] cs).bind fun tail =>
        (asciiClass? (String.ofList name)).map fun s => ((negated, s), tail) := by
    refine Sharp.expect [']'] (by decide) ?_
    refine (Sharp.lift ((asciiClass? (String.ofList name)).map fun s => (negated, s))).of_eq ?_
    intro cs
    cases asciiClass? (String.ofList name) <;> rfl
  exact (Sharp.cutAt ':' (by decide)).bind hname

/-- A named class, behind its caret if it has one. -/
theorem namedClass?_colon {negated : Bool} {cs body : List Char}
    (h : negated = true ∧ cs = '^' :: body ∨
      negated = false ∧ cs = body ∧ ∀ tail, body = '^' :: tail → False) :
    (namedClass? (':' :: cs)).map pairLeft = named? negated body := by
  unfold named?
  rcases h with ⟨rfl, rfl⟩ | ⟨rfl, rfl, hcaret⟩
  on_goal 1 => rw [namedClass?.eq_1]
  on_goal 2 => rw [namedClass?.eq_2 _ hcaret]
  all_goals
    rcases Text.cutAt ':' _ with ⟨name, _ | _ | ⟨c, tail⟩⟩
    · rfl
    · rfl
    -- The name ends at the second colon and has to stand right before the bracket.
    by_cases hc : c = ']'
    · subst hc
      simp only [Option.map_some, Option.bind_some, after?_cons, if_pos, Option.map_map]
      rfl
    · simp [hc, after?_cons]

/-- A named class. An ending makes no difference to it. -/
theorem sharp_namedClass : Sharp fun cs => (namedClass? cs).map pairLeft := by
  refine (Sharp.expect [':'] (by decide)
    (Sharp.choice ['^'] (by decide) (sharp_named true) (sharp_named false))).of_eq
      fun cs => ?_
  rcases cs with _ | ⟨c, cs⟩
  · rfl
  by_cases hc : c = ':'
  · subst hc
    rcases cs with _ | ⟨d, cs⟩
    · rfl
    by_cases hd : d = '^'
    · subst hd
      exact namedClass?_colon (Or.inl ⟨rfl, rfl⟩)
    · simp only [after?_cons, if_pos, Option.bind_some, hd, if_false]
      exact namedClass?_colon (Or.inr ⟨rfl, rfl, fun tail h => hd (List.cons.inj h).1⟩)
  · simp [namedClass?, hc, after?_cons]

/-! ### Members -/

variable (flags : Flags)

/-- What follows the first character of a member. -/
theorem steady_member_cons (c : Char) : Steady fun cs => member? flags (c :: cs) := by
  by_cases hc : c = '\\'
  · subst hc
    exact steady_escape flags
  · refine (Steady.pure (Escape.literal c)).of_eq fun cs => ?_
    simp [member?]

/-- A character or an escape. -/
theorem steady_member : Steady (member? flags) := by
  refine (Steady.head (steady_member_cons flags)).of_eq fun cs => ?_
  cases cs <;> rfl

/-- What an escape is as a member of a class on its own. -/
def alone? (flags : Flags) : Escape → Option CharSet
  | .literal c => range? flags c c
  | .set s => some s
  | .at _ => none

/-- The last member of a range, behind its hyphen. -/
def rangeTo? (flags : Flags) (first : Escape) (cs : List Char) : Option (CharSet × List Char) :=
  match first, member? flags cs with
  | .literal a, some (.literal b, tail) => (range? flags a b).map fun s => (s, tail)
  | _, _ => none

/-- The characters between two members. -/
def between? (flags : Flags) : Escape → Escape → Option CharSet
  | .literal a, .literal b => range? flags a b
  | _, _ => none

theorem steady_rangeTo (first : Escape) : Steady (rangeTo? flags first) := by
  refine ((steady_member flags).filterMap (between? flags first)).of_eq fun cs => ?_
  unfold rangeTo?
  rcases member? flags cs with _ | ⟨_ | _ | _, tail⟩ <;> cases first <;> rfl

/-- Whether what follows a hyphen makes it a range. -/
def rangeFollows : List Char → Bool
  | ']' :: _ => false
  | '-' :: _ => false
  | _ => true

/-- A member from behind its first part on. -/
def itemRest? (flags : Flags) (first : Escape) (tail : List Char) :
    Option (CharSet × List Char) :=
  match Text.after? ['-'] tail with
  | some after =>
    if rangeFollows (flags.skip after) then rangeTo? flags first (flags.skip after)
    else (alone? flags first).map (·, tail)
  | none => (alone? flags first).map (·, tail)

theorem itemRest?_hyphen (first : Escape) (after : List Char) :
    itemRest? flags first ('-' :: after) =
      if rangeFollows (flags.skip after) then rangeTo? flags first (flags.skip after)
      else (alone? flags first).map (·, '-' :: after) := rfl

theorem itemRest?_cons (first : Escape) {c : Char} (hc : c ≠ '-') (cs : List Char) :
    itemRest? flags first (c :: cs) = (alone? flags first).map (·, c :: cs) := by
  simp only [itemRest?, after?_cons, if_neg hc]

theorem classItem?_eq (cs : List Char) : classItem? flags cs =
    (member? flags cs).bind fun p => itemRest? flags p.1 (flags.skip p.2) := by
  unfold classItem?
  rcases member? flags cs with _ | ⟨first, tail⟩
  · rfl
  simp only [Option.bind_some]
  rcases flags.skip tail with _ | ⟨c, after⟩
  · cases first <;> rfl
  -- A hyphen behind the first member opens a range only where something can end it.
  by_cases hc : c = '-'
  · subst hc
    rw [itemRest?_hyphen]
    change (if rangeFollows (flags.skip after) = true then rangeTo? flags first (flags.skip after)
      else _) = _
    by_cases hfollows : rangeFollows (flags.skip after) = true
    · rw [if_pos hfollows, if_pos hfollows]
    · rw [if_neg hfollows, if_neg hfollows]
      cases first <;> rfl
  · rw [itemRest?_cons flags first hc]
    cases first <;> simp [alone?, hc]

theorem rangeFollows_append {w : List Char} (he : Ending w) (cs : List Char) :
    rangeFollows (flags.skip (cs ++ w)) = rangeFollows (flags.skip cs) := by
  -- What is skipped is the same with more text behind it, unless a comment was left open.
  rcases flags.skip_append cs with hkept | ⟨hnil, hhidden⟩
  · rw [hkept w he]
    rcases flags.skip cs with _ | ⟨c, cs⟩
    · rcases he with ⟨v, rfl, _⟩
      rfl
    by_cases hclose : c = ']'
    · subst hclose
      rfl
    by_cases hhyphen : c = '-'
    · subst hhyphen
      rfl
    · simp [rangeFollows, hclose, hhyphen]
  · rw [hnil, hhidden w he]

/-- A member from behind its first part on. A hyphen that makes no range is left. -/
theorem steady_itemRest (first : Escape) : Steady (itemRest? flags first) where
  suffix := by
    intro cs s rest h
    rcases cs with _ | ⟨c, cs⟩
    · exact (Steady.lift (alone? flags first)).suffix h
    by_cases hc : c = '-'
    · subst hc
      rw [itemRest?_hyphen] at h
      split_ifs at h
      · exact (((steady_rangeTo flags first).ofSkip flags).suffix h).trans (List.suffix_cons _ _)
      · exact (Steady.lift (alone? flags first)).suffix h
    · rw [itemRest?_cons flags first hc] at h
      exact (Steady.lift (alone? flags first)).suffix h
  behind cs := by
    have halone := (Steady.lift (alone? flags first)).behind cs
    rcases cs with _ | ⟨c, cs⟩
    · refine halone.of_eq rfl fun w he => ?_
      rcases he with ⟨v, rfl, _⟩
      exact itemRest?_cons flags first (by decide) v
    by_cases hc : c = '-'
    · subst hc
      -- The decision whether a range follows does not depend on the ending either.
      by_cases hfollows : rangeFollows (flags.skip cs) = true
      · refine (((steady_rangeTo flags first).ofSkip flags).behind cs).of_eq ?_ fun w he => ?_
        · rw [itemRest?_hyphen, if_pos hfollows]
        · rw [List.cons_append, itemRest?_hyphen, rangeFollows_append flags he, if_pos hfollows]
      · refine halone.of_eq ?_ fun w he => ?_
        · rw [itemRest?_hyphen, if_neg hfollows]
        · rw [List.cons_append, itemRest?_hyphen, rangeFollows_append flags he, if_neg hfollows]
    · refine halone.of_eq (itemRest?_cons flags first hc cs) fun w _ => ?_
      exact itemRest?_cons flags first hc (cs ++ w)

/-- A member or a range. -/
theorem steady_classItem : Steady (classItem? flags) :=
  ((steady_member flags).bind fun first => (steady_itemRest flags first).ofSkip flags).of_eq
    (classItem?_eq flags)

/-- A member takes a character. -/
theorem suffix_of_classItem {c : Char} {cs rest : List Char} {s : CharSet}
    (h : classItem? flags (c :: cs) = some (s, rest)) : rest <:+ cs := by
  rw [classItem?_eq] at h
  exact ((steady_member_cons flags c).bind fun first =>
    (steady_itemRest flags first).ofSkip flags).suffix h

/-- What stands before the first ordinary member of a class, behind its caret if it has one. -/
def openingMembers (flags : Flags) (negated : Bool) :
    Nat × List Char → Bool × ClassMembers × List Char
  | (0, ']' :: tail) => (negated, ClassMembers.add {} (.single ']') 0, flags.skip tail)
  | (0, tail) => (negated, {}, tail)
  | (n, tail) => (negated, ⟨.single '-', n, 0⟩, tail)

/-- What stands before the first ordinary member of a class. -/
theorem steady_classOpening : Steady fun cs => some (pairLeft (classOpening flags cs)) := by
  have hskip {α : Type} (a : α) : Steady fun cs => some (a, flags.skip cs) :=
    (steady_skip flags).bind fun _ => Steady.pure a
  have hcaret := (Steady.choice ['^'] (by decide) (hskip true)
    (Steady.pure false)).ofSkip flags
  have hmembers (negated : Bool) (hyphens : List Char) : Steady fun cs =>
      some (pairLeft (openingMembers flags negated (hyphens.length, cs))) := by
    -- A bracket is a member only as the very first one, before any hyphen.
    rcases hyphens with _ | ⟨_, hyphens⟩
    · refine (Steady.choice [']'] (by decide)
        (hskip (negated, ClassMembers.add {} (.single ']') 0)) (Steady.pure (negated, {}))).of_eq
          fun cs => ?_
      rcases cs with _ | ⟨c, cs⟩
      · rfl
      by_cases hc : c = ']'
      · subst hc
        rfl
      · simp [openingMembers, after?_cons, hc, pairLeft]
    · exact Steady.pure (negated, (⟨.single '-', hyphens.length + 1, 0⟩ : ClassMembers))
  refine (hcaret.bind fun negated => (steady_take flags ((· == '-')) (by decide)).bind
    (hmembers negated)).of_eq fun cs => ?_
  unfold classOpening
  rcases flags.skip cs with _ | ⟨c, cs⟩
  · rfl
  by_cases hc : c = '^'
  · subst hc
    rfl
  · simp [after?_cons, hc]
    rfl

/-! ### Classes -/

/-- What stands before an operation, as the operation that waits for what stands after it. -/
def waiting (flags : Flags) (pending : Option PendingOperation) (members : ClassMembers)
    (operation : CharSet → CharSet → CharSet) : PendingOperation :=
  let left := combine pending ⟨flags.close members.layered.value, members.layered.depth⟩
  ⟨operation left.value, left.depth⟩

section Body

variable {class? : List Char → Option (Layered CharSet × List Char)}
  {body? : Option PendingOperation → ClassMembers → List Char →
    Option (Layered CharSet × List Char)}

/-- A class in a class, named or not, and what follows it. -/
def innerClass? (flags : Flags) (class? : List Char → Option (Layered CharSet × List Char))
    (body? : Option PendingOperation → ClassMembers → List Char →
      Option (Layered CharSet × List Char))
    (pending : Option PendingOperation) (members : ClassMembers) (cs : List Char) :
    Option (Layered CharSet × List Char) :=
  match (namedClass? cs).map pairLeft with
  | some (named, tail) =>
    (flags.complIf? named.1 (flags.close named.2)).bind fun s =>
      body? pending (members.add s 0) tail
  | none =>
    (class? cs).bind fun p => body? pending (members.add p.1.value p.1.depth) p.2

theorem steady_innerClass (hclass : Steady class?)
    (hbody : ∀ pending members, Steady (body? pending members))
    (pending : Option PendingOperation) (members : ClassMembers) :
    Steady (innerClass? flags class? body? pending members) := by
  refine (Steady.cases sharp_namedClass
    (fun named => Steady.withSome (flags.complIf? named.1 (flags.close named.2)) fun s =>
      hbody pending (members.add s 0))
    (hclass.bind fun inner => hbody pending (members.add inner.value inner.depth))).of_eq
      fun cs => ?_
  unfold innerClass?
  cases (namedClass? cs).map pairLeft <;> rfl

end Body

/-- A class, and the rest of a class, with the same fuel. -/
theorem steady_charClass_classBody (fuel : Nat) :
    Steady (charClass? fuel flags) ∧
      ∀ pending members, Steady (classBody? fuel flags pending members) := by
  -- Classes and their bodies call each other, so both are carried along one induction on
  -- the fuel that they spend at each call.
  induction fuel with
  | zero =>
      refine ⟨Steady.none.of_eq fun cs => ?_, fun _ _ => Steady.none.of_eq fun cs => ?_⟩
      · rw [charClass?]
      · rw [classBody?]
  | succ fuel ih =>
      constructor
      · refine ((steady_classOpening flags).bind fun opening => (ih.2 none opening.2).bind
          fun members => Steady.liftMap (flags.complIf? opening.1 members.value)
            fun s => (⟨s, members.depth + 1⟩ : Layered CharSet)).of_eq fun cs => ?_
        rw [charClass?]
        rcases classOpening flags cs with ⟨negated, opening, body⟩
        simp only [Option.bind_some, pairLeft]
        cases classBody? fuel flags none opening body <;> rfl
      · intro pending members
        have hnext (operation : CharSet → CharSet → CharSet) :=
          ih.2 (some (waiting flags pending members operation)) {}
        have hinner := steady_innerClass flags ih.1 ih.2 pending members
        have hitem := (steady_classItem flags).bind fun s => ih.2 pending (members.add s 0)
        have hleft := Steady.pure
          (combine pending ⟨flags.close members.layered.value, members.layered.depth⟩)
        -- The body chooses by its first characters; each choice keeps the property.
        refine ((Steady.choice [']'] (by decide) hleft
          (Steady.choice ['&', '&'] (by decide) (hnext .inter)
          (Steady.choice ['-', '-'] (by decide) (hnext .diff)
          (Steady.choice ['~', '~'] (by decide) (hnext .symmDiff)
          (Steady.choice ['['] (by decide) hinner hitem))))).ofSkip flags).of_eq
            fun cs => ?_
        rw [classBody?]
        split
        · rename_i heq
          rw [heq]
          rfl
        · rename_i heq
          rw [heq]
          rfl
        · rename_i heq
          rw [heq]
          rfl
        · rename_i heq
          rw [heq]
          rfl
        · rename_i tail heq
          rw [heq]
          change _ = innerClass? flags _ _ pending members tail
          unfold innerClass?
          cases namedClass? tail with
          | some named =>
            simp only [Option.map_some, pairLeft]
            cases flags.complIf? named.1 (flags.close named.2.1) <;> rfl
          | none =>
            simp only [Option.map_none]
            cases charClass? fuel flags tail <;> rfl
        · rename_i h1 h2 h3 h4 h5
          rw [after?_eq_none [']'] h1, after?_eq_none ['&', '&'] h2, after?_eq_none ['-', '-'] h3,
            after?_eq_none ['~', '~'] h4, after?_eq_none ['['] h5]
          cases classItem? flags (flags.skip cs) <;> rfl

/-- Fuel for every bracket and every member is enough: more of it makes no difference. -/
theorem charClass?_succ (fuel : Nat) :
    (∀ cs, 2 * cs.length + 2 ≤ fuel → charClass? (fuel + 1) flags cs = charClass? fuel flags cs) ∧
      ∀ pending members cs, 2 * cs.length + 1 ≤ fuel →
        classBody? (fuel + 1) flags pending members cs =
          classBody? fuel flags pending members cs := by
  -- Every call spends one unit of fuel and at least one character, or it opens the body
  -- of a class, for which the bounds differ by one.
  induction fuel with
  | zero => exact ⟨fun cs h => by omega, fun _ _ cs h => by omega⟩
  | succ fuel ih =>
      constructor
      · intro cs hfuel
        have hbody : (classOpening flags cs).2.2 <:+ cs := (steady_classOpening flags).suffix rfl
        have hlength := hbody.length_le
        rw [charClass?, charClass?]
        rcases hopening : classOpening flags cs with ⟨negated, opening, body⟩
        rw [hopening] at hlength
        dsimp only at hlength ⊢
        rw [ih.2 none opening body (by omega)]
      · intro pending members cs hfuel
        have hlength := flags.length_skip_le cs
        rw [classBody?, classBody?]
        split
        · rfl
        · rename_i heq
          rw [heq] at hlength
          simp only [List.length_cons] at hlength
          exact ih.2 _ _ _ (by omega)
        · rename_i heq
          rw [heq] at hlength
          simp only [List.length_cons] at hlength
          exact ih.2 _ _ _ (by omega)
        · rename_i heq
          rw [heq] at hlength
          simp only [List.length_cons] at hlength
          exact ih.2 _ _ _ (by omega)
        · rename_i tail heq
          rw [heq] at hlength
          simp only [List.length_cons] at hlength
          cases hnamed : namedClass? tail with
          | some named =>
              rcases named with ⟨negated, s, rest⟩
              -- What a reader leaves is a suffix, so there is fuel enough for it.
              have hsuffix : rest <:+ tail := sharp_namedClass.suffix (by rw [hnamed]; rfl)
              have hrest := hsuffix.length_le
              dsimp only
              cases flags.complIf? negated (flags.close s) with
              | none => rfl
              | some s => exact ih.2 _ _ _ (by omega)
          | none =>
              dsimp only
              rw [ih.1 tail (by omega)]
              cases hinner : charClass? fuel flags tail with
              | none => rfl
              | some inner =>
                  have hsuffix := (steady_charClass_classBody flags fuel).1.suffix hinner
                  have hrest := hsuffix.length_le
                  exact ih.2 _ _ _ (by omega)
        · rcases hskip : flags.skip cs with _ | ⟨c, body⟩
          · rfl
          rw [hskip, List.length_cons] at hlength
          cases hitem : classItem? flags (c :: body) with
          | none => rfl
          | some item =>
              have hrest := (suffix_of_classItem flags hitem).length_le
              exact ih.2 _ _ _ (by omega)

theorem charClass?_eq_of_le {fuel : Nat} {cs : List Char} (h : 2 * cs.length + 2 ≤ fuel) :
    charClass? fuel flags cs = charClass? (2 * cs.length + 2) flags cs := by
  induction h with
  | refl => rfl
  | @step fuel hle ih => rw [(charClass?_succ flags fuel).1 cs hle, ih]

/-- A class, with the fuel that is enough for the text. -/
theorem steady_charClass : Steady fun cs => charClass? (2 * cs.length + 2) flags cs where
  suffix h := (steady_charClass_classBody flags _).1.suffix h
  behind cs := by
    have hbehind := (steady_charClass_classBody flags (2 * (cs.length + 2) + 2)).1.behind cs
    refine hbehind.of_eq (charClass?_eq_of_le flags (by omega)).symm fun w he => ?_
    have hlength : (cs ++ w).length ≤ cs.length + 2 := by
      rcases he with ⟨v, rfl, rfl | rfl⟩ <;> simp
    exact (charClass?_eq_of_le flags (by omega)).symm

/-! ### Steps -/

namespace Reading

variable (r : Reading)

/-- What follows the question mark of a repetition, for a repetition in itself. -/
theorem steady_repeated (least : Nat) (most : Option Nat) :
    Steady fun cs => (r.repeatLast? least most).map fun r => (r, dropLazy cs) := by
  have hlazy (r : Reading) := Steady.choice ['?'] (by decide) (Steady.pure r)
    (Steady.pure r)
  refine (Steady.withSome (r.repeatLast? least most) hlazy).of_eq fun cs => ?_
  cases r.repeatLast? least most with
  | none => rfl
  | some r =>
      -- A question mark behind a repetition belongs to it and changes nothing.
      rcases cs with _ | ⟨c, cs⟩
      · rfl
      by_cases hc : c = '?'
      · subst hc
        rfl
      · simp [dropLazy, after?_cons, hc]

/-- The part that an escape is. -/
def addEscape (r : Reading) : Escape → Reading
  | .literal c => r.add (r.flags.literal c) 0
  | .set s => r.add (.set s) 0
  | .at condition => r.add (.at condition) 0

/-- One step is a reader. -/
theorem steady_step (c : Char) : Steady (r.step? c) := by
  -- Which reader a character starts is decided without the text behind it, so the cases
  -- are those of the step on no text.
  generalize hread : r.step? c [] = read
  unfold step? at hread
  dsimp only at hread
  split at hread
  · exact steady_enter r
  · exact Steady.lift r.leave?
  · exact Steady.pure _
  · exact r.steady_repeated 0 none
  · exact r.steady_repeated 1 none
  · exact r.steady_repeated 0 (some 1)
  · refine ((steady_counts r.flags).bind fun counts =>
      (r.steady_repeated counts.1 counts.2).ofSkip r.flags).of_eq fun cs => ?_
    change (counts? r.flags cs).bind _ = _
    cases counts? r.flags cs <;> rfl
  · refine ((steady_charClass r.flags).map fun s => r.add (.set s.value) s.depth).of_eq fun cs => ?_
    rfl
  · refine ((steady_escape r.flags).map r.addEscape).of_eq fun cs => ?_
    change (escape? r.flags cs).map _ = _
    rcases escape? r.flags cs with _ | ⟨_ | _ | _, _⟩ <;> rfl
  · exact Steady.liftMap r.flags.dot? fun dot => r.add dot 0
  · exact Steady.pure _
  · exact Steady.pure _
  · refine (Steady.pure (r.add (r.flags.literal c) 0)).of_eq fun cs => ?_
    unfold step?
    dsimp only
    split <;> first | rfl | contradiction

end Reading

end Pattern

end Reckon
