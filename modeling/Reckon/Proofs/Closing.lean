import Reckon.Proofs.Ending

/-!
# The End of a Statement

An end of statement does much the same as the end of the tokens: the assignments
that are being read end, from the inside out, and what each has come to goes to
its place in the frame around it. The outermost frame keeps what it has come to
until another statement starts.

The two differ in one case. Where the value that comes back makes operands that
do not fit, nothing more can come at the end of the tokens, and the run fails.
After an end of statement tokens may follow, and the pass waits for an operator
that takes the right operand, as it does in the middle of a statement.

So what an end of statement comes to can be read off the end of the tokens
(`Pass.outcome_close_eq_another`), and the one case in which it cannot is the
one in which the pass is left waiting (`Pass.close_ensures_ended`).

There is a second way for the pass to go on: an end of statement where no value
is on the stack is not read as one. That is so between statements, but also after
a junction that has dropped its left operand (`Pass.EndRead.skipped`).

## Main definitions

* `Pass.withClosed`: The same pass, with or without the end of its statement.
* `Pass.EndRead`: What a pass makes of an end of statement.

## Theorems

* `Pass.place_withClosed`: A value goes to its place whether or not the statement
  has ended.
* `Pass.close_cons`: The end of the innermost assignment.
* `Pass.outcome_close_eq_another`: An end of statement ends what the end of the
  tokens would.
* `Pass.close_ensures_ended`: What an end of statement leaves.
* `Pass.feed_endRead`: What a pass makes of an end of statement.
-/

namespace Reckon

open Eval

namespace Pass

variable {α : Type}

/-- The same pass, with or without the end of its statement. -/
def withClosed (p : Pass) (closed : Bool) : Pass :=
  { p with frame := { p.frame with closed := closed } }

theorem reduce_withClosed (rounding : Rounding) (regrouping : Bool) (p : Pass) (s : Stack)
    (closed : Bool) : (p.withClosed closed).reduce rounding regrouping s =
      (p.reduce rounding regrouping s).map (withClosed · closed) := by
  unfold reduce
  rcases s.collapse rounding with cause | s' | ⟨op, left, right, below⟩
  · rfl
  · rfl
  · have hcount : (p.withClosed closed).regroupings = p.regroupings := rfl
    simp only [hcount]
    split
    · rfl
    · rfl

/-- A value goes to its place whether or not the statement has ended. -/
theorem place_withClosed (rounding : Rounding) (p : Pass) (slot : Slot) (v : Value)
    (closed : Bool) : (p.withClosed closed).place rounding slot v =
      (p.place rounding slot v).map (withClosed · closed) := by
  cases slot with
  | first => rfl
  | right op => exact reduce_withClosed rounding false p _ closed
  | regrouped op left right next =>
      have hcounted : (p.withClosed closed).counted = p.counted.withClosed closed := rfl
      have hregroupings : (p.withClosed closed).regroupings = p.regroupings := rfl
      simp only [place, hcounted, hregroupings, reduce_withClosed]
      split <;> rfl

/-- The end of the outermost statement. -/
theorem close_nil (rounding : Rounding) (frame : Frame) (expecting : Expecting)
    (regroupings : Nat) : (⟨frame, expecting, [], regroupings⟩ : Pass).close rounding =
      if 1 < frame.stack.length then Eval.fail (.illFormed .incomplete)
      else pure ⟨{ frame with closed := false }, .another, [], regroupings⟩ := rfl

/-- The end of the innermost assignment. Its value goes to the frame around it,
    whose statement ends too, unless its operands do not fit. -/
theorem close_cons (rounding : Rounding) (frame : Frame) (expecting : Expecting)
    (a : Assignment) (outer : List Assignment) (regroupings : Nat) :
    (⟨frame, expecting, a :: outer, regroupings⟩ : Pass).close rounding = (do
      let v ← ofExcept (frame.assigned a.target)
      Eval.assign a.target v
      let q ← ofExcept (Pass.place rounding
        ⟨{ a.frame with closed := false }, .statement, outer, regroupings⟩ a.slot v)
      if q.expecting.regroups then return q.withClosed true else q.close rounding) := by
  -- The frame around it gets its end first and the value then.
  have hclose : (⟨frame, expecting, a :: outer, regroupings⟩ : Pass).close rounding = (do
      let v ← ofExcept (frame.assigned a.target)
      Eval.assign a.target v
      let q ← ofExcept (Pass.place rounding (withClosed
        ⟨{ a.frame with closed := false }, .statement, outer, regroupings⟩ true) a.slot v)
      settle rounding q.frame q.expecting q.regroupings outer) := rfl
  rw [hclose]
  refine bind_congr fun v => bind_congr fun _ => ?_
  rw [place_withClosed]
  cases hq : place rounding
    ⟨{ a.frame with closed := false }, .statement, outer, regroupings⟩ a.slot v with
  | error cause => rfl
  | ok q =>
      have hplaced := placed_of_place hq
      obtain ⟨f, e, os, n⟩ := q
      have houter : os = outer := hplaced.outer_eq
      subst houter
      -- Either the frame around it ends as well, or it is left waiting for an operator.
      rcases hplaced.expecting with he | ⟨op, left, right, he⟩
      · cases he
        rfl
      · cases he
        cases os <;> rfl

/-- Nothing is missing in a pass that ends in one where nothing is. -/
theorem Ends.missing?_eq_none {rounding : Rounding} {p q : Pass} {vs vs' : Variables}
    (h : p.Ends rounding vs q vs') (hq : missing? q.expecting = none) :
    missing? p.expecting = none := by
  cases h with
  | here => exact hq
  | handed _ hmissing _ _ _ => exact hmissing

/-- An operator that waits for another one is missing it. -/
theorem regroups_eq_false_of_missing? {e : Expecting} (h : missing? e = none) :
    e.regroups = false := by
  cases e with
  | regroup op left right => cases h
  | regroupRight op left right next => cases h
  | _ => rfl

/-- A value in its place is missing nothing, unless its operator waits for
    another one. -/
theorem Placed.missing?_eq_none {slot : Slot} {p q : Pass} (h : Placed slot p q)
    (hq : q.expecting.regroups = false) : missing? q.expecting = none := by
  rcases h.expecting with he | ⟨op, left, right, he⟩
  · rw [he]
    rfl
  · rw [he] at hq
    cases hq

/-- Where an end of statement ends the outermost statement, the end of the tokens
    would have led to the same frame, with as many regroupings and with the same
    uses of the variables. -/
theorem outcome_close_eq_another (rounding : Rounding) (p q : Pass) (vs vs' : Variables)
    (hp : missing? p.expecting = none) :
    (p.close rounding).outcome vs = (.ok q, vs') ∧ q.expecting = .another ↔
      ∃ r, p.Ends rounding vs r vs' ∧ r.outer = [] ∧ missing? r.expecting = none ∧
        r.frame.stack.length ≤ 1 ∧
        q = ⟨{ r.frame with closed := false }, .another, [], r.regroupings⟩ := by
  obtain ⟨frame, expecting, outer, regroupings⟩ := p
  -- The induction is on the assignments, which end from the inside out.
  induction outer generalizing frame expecting regroupings vs with
  | nil =>
      rw [close_nil]
      constructor
      · rintro ⟨h, _⟩
        split at h
        · cases h
        next hlen =>
          cases h
          exact ⟨_, .here _ _, rfl, hp, Nat.not_lt.mp hlen, rfl⟩
      · rintro ⟨r, hends, _, _, hlen, rfl⟩
        rcases hends.eq_of_outer_nil rfl with ⟨rfl, rfl⟩
        rw [if_neg (Nat.not_lt.mpr hlen)]
        exact ⟨rfl, rfl⟩
  | cons a outer ih =>
      rw [close_cons]
      constructor
      · rintro ⟨h, hq⟩
        simp only [outcome_bind_eq_ok, outcome_ofExcept_eq_ok, outcome_assign, Prod.mk.injEq,
          true_and] at h
        rcases h with ⟨v, _, ⟨hassigned, rfl⟩, _, _, rfl, q', _, ⟨hplace, rfl⟩, hrest⟩
        have hplaced := placed_of_place hplace
        have houter : q'.outer = outer := hplaced.outer_eq
        subst houter
        split at hrest
        next hwaits =>
          -- A pass that waits for an operator is not between statements.
          cases hrest
          have hexp : q'.expecting = .another := hq
          exact absurd hexp hplaced.ne_another
        next hwaits =>
          rw [Bool.not_eq_true] at hwaits
          rcases (ih _ _ _ _ (hplaced.missing?_eq_none hwaits)).mp ⟨hrest, hq⟩ with
            ⟨r, hends, hr⟩
          exact ⟨r, .handed rfl hp hassigned hplace hends, hr⟩
      · rintro ⟨r, hends, hnil, hmissing, hlen, rfl⟩
        cases hends with
        | here => cases hnil
        | @handed _ q' _ _ _ v _ _ hcons _ hassigned hplace hrest =>
            cases hcons
            have houter : q'.outer = outer := (placed_of_place hplace).outer_eq
            subst houter
            have hq' := hrest.missing?_eq_none hmissing
            refine ⟨?_, rfl⟩
            simp only [hassigned, hplace, ofExcept_ok, pure_bind,
              outcome_bind_of_ok _ _ _ _ _ (outcome_assign _ _ _),
              regroups_eq_false_of_missing? hq', Bool.false_eq_true, if_false]
            exact ((ih _ _ _ _ hq').mpr ⟨r, hrest, hnil, hmissing, hlen, rfl⟩).1

/-- An end of statement leaves a pass between two statements, or with operands
    that do not fit. -/
theorem close_ensures_ended (rounding : Rounding) (p : Pass) :
    (p.close rounding).Ensures
      (fun q => q.expecting = .another ∨ ∃ op left right, q.expecting = .regroup op left right)
      fun _ => True := by
  obtain ⟨frame, expecting, outer, regroupings⟩ := p
  -- Handing a value outwards leaves the next frame to be closed, or waiting for a regrouping.
  induction outer generalizing frame expecting regroupings with
  | nil =>
      rw [close_nil]
      split
      · exact ensures_fail _ trivial
      · exact ensures_pure _ (Or.inl rfl)
  | cons a outer ih =>
      rw [close_cons]
      refine handed_ensures frame a.target _ _ (ensures_true _)
        (fun v => ensures_ofExcept _ (fun q hq => placed_of_place hq) fun _ _ => trivial)
        fun q hq => ?_
      obtain ⟨f, e, os, n⟩ := q
      have houter : os = outer := hq.outer_eq
      subst houter
      rcases hq.expecting with he | ⟨op, left, right, he⟩
      · cases he
        exact ih _ _ _
      · cases he
        exact ensures_pure _ (Or.inr ⟨op, left, right, rfl⟩)

/-- What a pass makes of an end of statement: it ends its statement, or skips the
    token where no statement is there to be ended, or refuses it. -/
inductive EndRead (rounding : Rounding) (p : Pass) : Eval Pass → Prop
  | closed : p.Closes → EndRead rounding p (p.close rounding)
  | skipped : p.expecting = .statement → p.outer = [] →
      (∀ v below, p.frame.stack ≠ .value v :: below) → EndRead rounding p (pure p)
  | refused {cause : Cause} :
      missing? p.expecting ≠ none ∨ p.expecting = .statement ∧ p.outer ≠ [] ∧
        (∀ v below, p.frame.stack ≠ .value v :: below) →
      EndRead rounding p (Eval.fail cause)

/-- An end of statement after a value, or where no value is on the stack. -/
theorem feedStatement_endRead (rounding : Rounding) (p : Pass) (shown : String)
    (value : Operand α → Eval Value) (hexp : p.expecting = .statement) :
    EndRead rounding p (p.feedStatement rounding (.operator .endOfStatement) shown value) := by
  -- A statement ends with a value on top; with none it is empty, which an assignment refuses.
  by_cases hvalue : ∃ v below, p.frame.stack = .value v :: below
  · rcases hvalue with ⟨v, below, hst⟩
    have hfeed : p.feedStatement rounding (.operator .endOfStatement) shown value =
        p.close rounding := by
      simp only [feedStatement, hst, operator]
    rw [hfeed]
    exact .closed (Or.inl ⟨hexp, v, below, hst⟩)
  · have hnone : ∀ v below, p.frame.stack ≠ .value v :: below :=
      fun v below hst => hvalue ⟨v, below, hst⟩
    have hfeed : p.feedStatement rounding (.operator .endOfStatement) shown value =
        if p.outer.isEmpty then pure p
        else Eval.fail (.illFormed (.missingBefore .endOfStatement)) := by
      rcases hst : p.frame.stack with _ | ⟨v | o, below⟩
      · simp only [feedStatement, hst]
        rfl
      · exact absurd hst (hnone v below)
      · simp only [feedStatement, hst]
        rfl
    rw [hfeed]
    cases houter : p.outer with
    | nil => exact .skipped hexp houter hnone
    | cons a outer =>
        refine .refused (Or.inr ⟨hexp, ?_, hnone⟩)
        rw [houter]
        exact List.cons_ne_nil _ _

/-- What a pass makes of an end of statement that does not stand between two
    statements. -/
theorem feed_endRead (rounding : Rounding) (p : Pass) (shown : String)
    (value : Operand α → Eval Value) (hexp : p.expecting ≠ .another) :
    EndRead rounding p (p.feed rounding (.operator .endOfStatement) shown value) := by
  -- The semicolon closes what can be closed and is refused where an operand is missing.
  cases he : p.expecting with
  | statement =>
      simp only [feed, he]
      exact feedStatement_endRead rounding p shown value he
  | another => exact absurd he hexp
  | statementEnd =>
      simp only [feed, he, Token.Kind.operator?]
      exact .closed (Or.inr (Or.inl he))
  | elseBranch depth =>
      have hfeed : p.feed rounding (.operator .endOfStatement) shown value = p.close rounding := by
        simp only [feed, he, Token.Kind.operator?]
      rw [hfeed]
      exact .closed (Or.inr (Or.inr ⟨depth, he⟩))
  | right op | regroupRight op left right next =>
      simp only [feed, he, feedRight]
      exact .refused (Or.inl (by rw [he]; exact Option.some_ne_none _))
  | regroup op left right =>
      have hfeed : p.feed rounding (.operator .endOfStatement) shown value =
          Eval.fail (.incompatible op left.kindName right.kindName) := by
        simp only [feed, he, Token.Kind.operator?]
        rfl
      rw [hfeed]
      exact .refused (Or.inl (by rw [he]; exact Option.some_ne_none _))

/-- Nothing is missing in a pass whose statement can be ended. -/
theorem Closes.missing?_eq_none {p : Pass} (h : p.Closes) : missing? p.expecting = none := by
  rcases h with ⟨hexp, _⟩ | hexp | ⟨depth, hexp⟩
  · rw [hexp]
    rfl
  · rw [hexp]
    rfl
  · rw [hexp]
    rfl

/-- An end of statement that can end a statement does. -/
theorem EndRead.eq_close {rounding : Rounding} {p : Pass} {m : Eval Pass}
    (h : EndRead rounding p m) (hcloses : p.Closes) : m = p.close rounding := by
  have hvalue : p.expecting = .statement → ∃ v below, p.frame.stack = .value v :: below := by
    intro hexp
    rcases hcloses with ⟨_, hst⟩ | hend | ⟨depth, hbranch⟩
    · exact hst
    · rw [hexp] at hend
      cases hend
    · rw [hexp] at hbranch
      cases hbranch
  -- Where the pass can close, neither skipping nor refusing applies.
  cases h with
  | closed _ => rfl
  | skipped hexp _ hnone =>
      rcases hvalue hexp with ⟨v, below, hst⟩
      exact absurd hst (hnone v below)
  | refused hrefused =>
      rcases hrefused with hmissing | ⟨hexp, _, hnone⟩
      · exact absurd hcloses.missing?_eq_none hmissing
      · rcases hvalue hexp with ⟨v, below, hst⟩
        exact absurd hst (hnone v below)

/-- An end of statement where no value is on the stack is skipped. -/
theorem EndRead.eq_pure {rounding : Rounding} {p : Pass} {m : Eval Pass}
    (h : EndRead rounding p m) (hexp : p.expecting = .statement) (houter : p.outer = [])
    (hnone : ∀ v below, p.frame.stack ≠ .value v :: below) : m = pure p := by
  cases h with
  | closed hcloses =>
      -- Closing would need a value on top of the stack, or a part of the text being skipped.
      rcases hcloses with ⟨_, v, below, hst⟩ | hend | ⟨depth, hbranch⟩
      · exact absurd hst (hnone v below)
      · rw [hexp] at hend
        cases hend
      · rw [hexp] at hbranch
        cases hbranch
  | skipped _ _ _ => rfl
  | refused hrefused =>
      rcases hrefused with hmissing | ⟨_, hne, _⟩
      · exact absurd (by rw [hexp]; rfl) hmissing
      · exact absurd houter hne

end Pass

end Reckon
