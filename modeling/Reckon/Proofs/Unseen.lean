import Reckon.Proofs.Run

/-!
# Changes That Tokens Do Not See

A token looks at the stack of the innermost frame and at what is expected. What
else a pass carries may be changed before the token or after it, with the same
result, if putting a value in its place and starting a frame commute with the
change as well (`Pass.Unseen`).

Two things remain that look further out. The end of a statement hands values to
the frames around it, and so does an operand of a frame whose statement has
ended. Both are left to whoever makes the change: they commute with it in
general, or they do not come up.

## Main definitions

* `Pass.Unseen`: A change of passes that tokens do not see.

## Theorems

* `Pass.Unseen.feed`: A token does to a changed pass what it does to the pass.
-/

namespace Reckon

variable {α : Type}

namespace Pass

/-- A change of passes that keeps the stack of the innermost frame and what is
    expected, and commutes with what is done to them. -/
structure Unseen (f : Pass → Pass) : Prop where
  expecting_eq : ∀ p, (f p).expecting = p.expecting
  stack_eq : ∀ p, (f p).frame.stack = p.frame.stack
  withStack_eq : ∀ p s, (f p).withStack s = f (p.withStack s)
  expect_eq : ∀ p e, ({ f p with expecting := e } : Pass) = f { p with expecting := e }
  target_eq : ∀ p slot name, (f p).target slot name = f (p.target slot name)
  place_eq : ∀ rounding p slot v, (f p).place rounding slot v = (p.place rounding slot v).map f

namespace Unseen

variable {f : Pass → Pass} {rounding : Rounding} {p : Pass}

/-- An operator after a value. -/
theorem operator (hf : Unseen f) (op : Operator) (v : Value) (below : Stack)
    (hclose : op = .endOfStatement → (f p).close rounding = f <$> p.close rounding) :
    (f p).operator rounding op v below = f <$> p.operator rounding op v below := by
  -- An operator looks at the top of the stack and changes what is expected, both of which
  -- the change of frames leaves alone; closing a statement is left to the hypothesis.
  cases op with
  | endOfStatement => exact hclose rfl
  | and | or =>
      cases v with
      | bool b =>
          simp only [Pass.operator, hf.withStack_eq, hf.expect_eq]
          split <;> rfl
      | _ =>
          simp only [Pass.operator, hf.withStack_eq]
          rfl
  | ternary =>
      cases v with
      | bool b =>
          cases b with
          | true =>
              simp only [Pass.operator, hf.withStack_eq]
              rfl
          | false =>
              simp only [Pass.operator, hf.withStack_eq, hf.expect_eq]
              rfl
      | _ => rfl
  | _ =>
      simp only [Pass.operator, hf.expect_eq]
      rfl

/-- A token of a statement. -/
theorem feedStatement (hf : Unseen f) (kind : Token.Kind α) (shown : String)
    (value : Operand α → Eval Value)
    (hoperand : ∀ slot m, (f p).operand rounding slot m = f <$> p.operand rounding slot m)
    (hend : kind = .operator .endOfStatement →
      (f p).outer.isEmpty = p.outer.isEmpty ∧ (f p).close rounding = f <$> p.close rounding) :
    (f p).feedStatement rounding kind shown value =
      f <$> p.feedStatement rounding kind shown value := by
  have hstack := hf.stack_eq p
  -- What an operator does where no value is on top: an end of statement may be skipped.
  have hskip : ∀ op, kind = .operator op →
      (if op == .endOfStatement && (f p).outer.isEmpty then pure (f p)
        else Eval.fail (.illFormed (.missingBefore op)) : Eval Pass) =
      f <$> if op == .endOfStatement && p.outer.isEmpty then pure p
        else Eval.fail (.illFormed (.missingBefore op)) := by
    rintro op hkind
    by_cases hop : op = .endOfStatement
    · subst hop
      rw [(hend hkind).1]
      split <;> rfl
    · have hne : (op == .endOfStatement) = false := beq_eq_false_iff_ne.mpr hop
      simp only [hne, Bool.false_and, Bool.false_eq_true, if_false]
      rfl
  rcases hst : p.frame.stack with _ | ⟨v | o, below⟩
  · rw [hst] at hstack
    cases kind with
    | operator op =>
        simp only [Pass.feedStatement, hst, hstack]
        exact hskip op rfl
    | operand o =>
        simp only [Pass.feedStatement, hst, hstack]
        exact hoperand _ _
    | assign name =>
        simp only [Pass.feedStatement, hst, hstack, hf.target_eq]
        rfl
  · rw [hst] at hstack
    cases kind with
    | operator op =>
        simp only [Pass.feedStatement, hst, hstack]
        exact hf.operator op v below fun hop => (hend (congrArg Token.Kind.operator hop)).2
    | _ =>
        simp only [Pass.feedStatement, hst, hstack]
        rfl
  · rw [hst] at hstack
    cases kind with
    | operator op =>
        simp only [Pass.feedStatement, hst, hstack]
        exact hskip op rfl
    | operand o =>
        simp only [Pass.feedStatement, hst, hstack]
        exact hoperand _ _
    | assign name =>
        simp only [Pass.feedStatement, hst, hstack, hf.target_eq]
        rfl

/-- The token after an operator. -/
theorem feedRight (hf : Unseen f) (op : Operator) (slot : Slot) (kind : Token.Kind α)
    (shown : String) (value : Operand α → Eval Value)
    (hoperand : ∀ m, (f p).operand rounding slot m = f <$> p.operand rounding slot m) :
    (f p).feedRight rounding op slot kind shown value =
      f <$> p.feedRight rounding op slot kind shown value := by
  cases kind with
  | operator op' => rfl
  | operand o => exact hoperand _
  | assign name =>
      simp only [Pass.feedRight, hf.target_eq]
      rfl

/-- A token does to a changed pass what it does to the pass, if its operand and
    the end of the statement do. -/
theorem feed (hf : Unseen f) (kind : Token.Kind α) (shown : String)
    (value : Operand α → Eval Value)
    (hoperand : ∀ q : Pass, q.frame.closed = p.frame.closed → ∀ slot m,
      (f q).operand rounding slot m = f <$> q.operand rounding slot m)
    (hend : kind = .operator .endOfStatement → ∀ q : Pass,
      (f q).outer.isEmpty = q.outer.isEmpty ∧ (f q).close rounding = f <$> q.close rounding) :
    (f p).feed rounding kind shown value = f <$> p.feed rounding kind shown value := by
  have hexpecting := hf.expecting_eq p
  have hclose : ∀ op, kind.operator? = some op → op = .endOfStatement →
      (f p).close rounding = f <$> p.close rounding := by
    rintro op hop rfl
    exact (hend (Token.Kind.eq_operator_of_operator? hop) p).2
  -- Outer frames matter only where a value is placed and where a statement ends.
  cases hexp : p.expecting with
  | statement =>
      simp only [Pass.feed, hexpecting, hexp]
      exact hf.feedStatement kind shown value (hoperand p rfl) fun hkind => hend hkind p
  | another =>
      simp only [Pass.feed, hexpecting, hexp, hf.withStack_eq]
      exact hf.feedStatement kind shown value (hoperand _ rfl) fun hkind => hend hkind _
  | right op =>
      simp only [Pass.feed, hexpecting, hexp]
      exact hf.feedRight op _ kind shown value (hoperand p rfl _)
  | regroupRight op left right next =>
      simp only [Pass.feed, hexpecting, hexp]
      exact hf.feedRight next _ kind shown value (hoperand p rfl _)
  | regroup op left right =>
      simp only [Pass.feed, hexpecting, hexp, hf.expect_eq]
      split
      · split <;> rfl
      · rfl
  | statementEnd =>
      simp only [Pass.feed, hexpecting, hexp]
      split
      next hop => exact hclose _ hop rfl
      next => rfl
  | elseBranch depth =>
      simp only [Pass.feed, hexpecting, hexp, hf.expect_eq]
      split
      · rfl
      · rfl
      · rfl
      next hop => exact hclose _ hop rfl
      · rfl

end Unseen

end Pass

end Reckon
