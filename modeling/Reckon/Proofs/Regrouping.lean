import Reckon.Proofs.Chain
import Reckon.Proofs.Statement

/-!
# What a Regrouping Comes To

If the operands of an operator do not fit, the next operator takes the right one
first: `a - b + c` is then meant to be `a - (b + c)`. The stack is worked off
from the top, so this is what comes out of it, whatever the operators are
(`Pass.reduce_regrouped`), with one exception. `or` clears the stack when it
takes an operand that is not empty, and then nothing of the first operator and
its left operand is left.

The operands that do not fit are handed back as arithmetic sees them. That makes
no difference to the value: either the right operand is the one that does not
fit, and is handed back as it is, or the left one is, and then no right operand
fits it (`Operator.apply_cast`).

## Main definitions

* `Operator.grouped`: The value of an operand grouped with another to its right.
* `Operator.regrouped`: What working off a regrouping comes to.

## Theorems

* `Operator.apply_cast`: The operands that an operator hands back.
* `Pass.place_grouping`: A value that completes a regrouping.
* `Pass.after_grouping`: The operators and operands of a regrouping.
* `Pass.grouping_eq_grouped`: A regrouping comes to the grouped value, unless it
  is cleared.
-/

namespace Reckon

open Eval

namespace Operator

/-- The value of `left op (right next n)`. -/
def grouped (op next : Operator) (rounding : Rounding) (left right n : Value) :
    Except Cause Value := do
  let w ← next.combine rounding right n
  op.combine rounding left w

/-- What working off `left op right next n` from the right comes to. An operator
    that clears the stack leaves nothing to be done. -/
def regrouped (op next : Operator) (rounding : Rounding) (left right n : Value) :
    Except Cause Value :=
  match next.apply right n rounding with
  | .replace w => .ok w
  | _ => op.grouped next rounding left right n

theorem regrouped_of_replace {op next : Operator} {rounding : Rounding} {left right n w : Value}
    (h : next.apply right n rounding = .replace w) :
    op.regrouped next rounding left right n = .ok w := by
  simp only [regrouped, h]

theorem regrouped_of_ne_replace {op next : Operator} {rounding : Rounding}
    {left right n : Value} (h : ∀ w, next.apply right n rounding ≠ .replace w) :
    op.regrouped next rounding left right n = op.grouped next rounding left right n := by
  unfold regrouped
  split
  next w hw => exact absurd hw (h w)
  next => rfl

end Operator

/-- An outcome that is a value in the place of the operands, or a failure. -/
def Outcome.Settles : Outcome → Prop
  | .push _ | .fail _ => True
  | _ => False

/-- What arithmetic sees is a decimal, or the value itself. -/
theorem Value.normalize_eq (v : Value) : v.normalize = v ∨ ∃ d, v.normalize = .decimal d := by
  cases v with
  | int n => exact Or.inr ⟨_, rfl⟩
  | str s =>
      cases h : Decimal.ofNumberText? s.toList with
      | some d => exact Or.inr ⟨d, by simp only [normalize, h]⟩
      | none => exact Or.inl (by simp only [normalize, h])
  | _ => exact Or.inl rfl

theorem Value.normalize_normalize (v : Value) : v.normalize.normalize = v.normalize := by
  rcases v.normalize_eq with h | ⟨d, h⟩
  · rw [h, h]
  · rw [h]
    rfl

namespace Operation

theorem divide_settles (rounding : Rounding) (a b : Decimal) : (divide rounding a b).Settles := by
  unfold divide
  split
  · trivial
  · split <;> trivial

theorem remainder_settles (a b : Decimal) : (remainder a b).Settles := by
  unfold remainder
  split <;> trivial

theorem add_settles (left right : Value) : (Operation.add left right).Settles := by
  unfold Operation.add
  split <;> trivial

theorem matchPattern_settles (left right : Value) : (matchPattern left right).Settles := by
  unfold matchPattern
  split <;> trivial

theorem resemble_settles (left right : Value) : (resemble left right).Settles := by
  unfold resemble
  split <;> trivial

theorem onType_settles (holds : TypeName → Bool) (right : Value) :
    (onType holds right).Settles := by
  unfold onType
  split
  · trivial
  · split <;> trivial
  · trivial

theorem project_settles (path list : Value) : (project path list).Settles := by
  unfold project
  split
  · split <;> trivial
  · trivial

/-- Arithmetic sees the same in an operand and in what arithmetic sees in it. -/
theorem onDecimals_normalize (operate : Decimal → Decimal → Outcome) (left right : Value) :
    onDecimals operate left.normalize right = onDecimals operate left right := by
  unfold onDecimals
  rw [Value.normalize_normalize]

/-- Arithmetic hands its operands back if one of them is no decimal. -/
theorem onDecimals_eq_cast {operate : Decimal → Decimal → Outcome} {left right l r : Value}
    (hoperate : ∀ a b, (operate a b).Settles) (h : onDecimals operate left right = .cast l r) :
    l = left.normalize ∧ r = right.normalize ∧
      ((∀ a, left.normalize ≠ .decimal a) ∨ ∀ b, right.normalize ≠ .decimal b) := by
  unfold onDecimals at h
  split at h
  -- With two decimals the operation is carried out, and by hypothesis it settles.
  next a b _ _ =>
    have := hoperate a b
    rw [h] at this
    exact this.elim
  next hne =>
    cases h
    refine ⟨rfl, rfl, ?_⟩
    by_cases hl : ∃ a, left.normalize = .decimal a
    · rcases hl with ⟨a, ha⟩
      exact Or.inr fun b hb => hne a b ha hb
    · exact Or.inl fun a ha => hl ⟨a, ha⟩

/-- Arithmetic takes no right operand if the left one is no decimal. -/
theorem exists_onDecimals_eq_cast (operate : Decimal → Decimal → Outcome) {left : Value}
    (h : ∀ a, left.normalize ≠ .decimal a) (right : Value) :
    ∃ l r, onDecimals operate left right = .cast l r := by
  unfold onDecimals
  split
  next a b ha _ => exact absurd ha (h a)
  next => exact ⟨_, _, rfl⟩

theorem onBits_eq_cast {operate : BitVec 32 → BitVec 32 → BitVec 32} {left right l r : Value}
    (h : onBits operate left right = .cast l r) : l = left ∧ r = right := by
  unfold onBits at h
  split at h
  · cases h
  · cases h
    exact ⟨rfl, rfl⟩

theorem onBits_ne_replace (operate : BitVec 32 → BitVec 32 → BitVec 32) (left right w : Value) :
    onBits operate left right ≠ .replace w := by
  unfold onBits
  split <;> exact Outcome.noConfusion

theorem disjoin_ne_cast (left right l r : Value) : disjoin left right ≠ .cast l r := by
  unfold disjoin
  split <;> exact Outcome.noConfusion

theorem coalesce_ne_cast (left right l r : Value) :
    Operation.coalesce left right ≠ .cast l r := by
  unfold Operation.coalesce
  split
  · exact Outcome.noConfusion
  · split <;> exact Outcome.noConfusion

end Operation

namespace Operator

open Operation in
/-- Apart from the junctions and `or`, an operator works on decimals, on words, or
    takes operands of all kinds. -/
theorem apply_shape (op : Operator) (rounding : Rounding) (hand : op ≠ .and) (hor : op ≠ .or)
    (hcoalesce : op ≠ .coalesce) :
    (∃ operate, (∀ a b, (operate a b : Outcome).Settles) ∧
      ∀ l r, op.apply l r rounding = onDecimals operate l r) ∨
    (∃ operate, ∀ l r, op.apply l r rounding = onBits operate l r) ∨
    ∀ l r, (op.apply l r rounding).Settles := by
  -- Operators on decimals and on bits may ask for a cast, the remaining ones settle.
  cases op with
  | and => exact absurd rfl hand
  | or => exact absurd rfl hor
  | coalesce => exact absurd rfl hcoalesce
  | sub | mul | gt | lt | gtEq | ltEq =>
      refine Or.inl ⟨_, ?_, fun _ _ => rfl⟩
      exact fun _ _ => trivial
  | div => exact Or.inl ⟨_, divide_settles rounding, fun _ _ => rfl⟩
  | mod => exact Or.inl ⟨_, remainder_settles, fun _ _ => rfl⟩
  | bitAnd | bitOr | bitXor | shl | ushl | shr | ushr =>
      exact Or.inr (Or.inl ⟨_, fun _ _ => rfl⟩)
  | add => exact Or.inr (Or.inr add_settles)
  | regex => exact Or.inr (Or.inr matchPattern_settles)
  | similarity => exact Or.inr (Or.inr resemble_settles)
  | instanceOf | convertibleTo => exact Or.inr (Or.inr fun _ r => onType_settles _ r)
  | projection => exact Or.inr (Or.inr project_settles)
  | _ => exact Or.inr (Or.inr fun _ _ => trivial)

/-- Only `or` clears the stack. -/
theorem eq_coalesce_of_apply_eq_replace {op : Operator} {left right w : Value}
    {rounding : Rounding} (hand : op ≠ .and) (hor : op ≠ .or)
    (h : op.apply left right rounding = .replace w) : op = .coalesce := by
  by_cases hcoalesce : op = .coalesce
  · exact hcoalesce
  -- Nothing but coalescing replaces what is below it.
  rcases apply_shape op rounding hand hor hcoalesce with
    ⟨operate, hoperate, happly⟩ | ⟨operate, happly⟩ | hsettles
  · rw [happly, Operation.onDecimals] at h
    split at h
    next a b _ _ =>
      have hab := hoperate a b
      rw [h] at hab
      exact hab.elim
    next => cases h
  · rw [happly] at h
    exact absurd h (Operation.onBits_ne_replace _ _ _ _)
  · have hs := hsettles left right
    rw [h] at hs
    exact hs.elim

/-- The operands that an operator hands back. The left one is as good as the one
    that was there. So is the right one, as it is the same, unless the operator
    takes no right operand at all. -/
theorem apply_cast {op : Operator} {left right l r : Value} {rounding : Rounding}
    (hand : op ≠ .and) (h : op.apply left right rounding = .cast l r) :
    (∀ w, op.apply l w rounding = op.apply left w rounding) ∧
      (r = right ∨ ∀ w, ∃ l' r', op.apply left w rounding = .cast l' r') := by
  have hor : op ≠ .or := by
    rintro rfl
    exact Operation.disjoin_ne_cast left right l r h
  have hcoalesce : op ≠ .coalesce := by
    rintro rfl
    exact Operation.coalesce_ne_cast left right l r h
  rcases apply_shape op rounding hand hor hcoalesce with
    ⟨operate, hoperate, happly⟩ | ⟨operate, happly⟩ | hsettles
  · rw [happly] at h
    rcases Operation.onDecimals_eq_cast hoperate h with ⟨rfl, rfl, hnone⟩
    refine ⟨fun w => by rw [happly, happly, Operation.onDecimals_normalize], ?_⟩
    -- If the left operand is to blame, every right one is refused; else the right one
    -- was no number, and normalizing left it as it was.
    rcases hnone with hleft | hright
    · refine Or.inr fun w => ?_
      rw [happly]
      exact Operation.exists_onDecimals_eq_cast operate hleft w
    · rcases right.normalize_eq with heq | ⟨b, hb⟩
      · exact Or.inl heq
      · exact absurd hb (hright b)
  · rw [happly] at h
    rcases Operation.onBits_eq_cast h with ⟨rfl, rfl⟩
    exact ⟨fun _ => rfl, Or.inl rfl⟩
  · have hs := hsettles left right
    rw [h] at hs
    exact hs.elim

/-- An operator that hands its operands back is one that combines operands. -/
theorem combines_of_cast {op : Operator} {left right l r : Value} {rounding : Rounding}
    (hand : op ≠ .and) (h : op.apply left right rounding = .cast l r) : op.combines = true := by
  cases op with
  | and => exact absurd rfl hand
  | or => exact absurd h (Operation.disjoin_ne_cast left right l r)
  | ternary | ternaryElse | endOfStatement => cases h
  | _ => rfl

/-- Grouping the operands that were handed back comes to what grouping the
    operands themselves comes to. -/
theorem grouped_cast {op next : Operator} {left right l r : Value} {rounding : Rounding}
    (hand : op ≠ .and) (h : op.apply left right rounding = .cast l r) (n v : Value) :
    op.grouped next rounding l r n = .ok v ↔ op.grouped next rounding left right n = .ok v := by
  rcases apply_cast hand h with ⟨hleft, rfl | hnone⟩
  · have hcombine : op.combine rounding l = op.combine rounding left := by
      funext w
      simp only [combine, hleft]
    simp only [grouped, hcombine]
  · -- The left operand fits no right one, so that neither comes to a value.
    have hfails (a b : Value) (ha : ∀ w, op.apply a w rounding = op.apply left w rounding) :
        op.grouped next rounding a b n ≠ .ok v := by
      intro hok
      unfold grouped at hok
      rcases hw : next.combine rounding b n with cause | w
      · rw [hw] at hok
        cases hok
      · rcases hnone w with ⟨l', r', hcast⟩
        rw [hw] at hok
        replace hok : op.combine rounding a w = .ok v := hok
        simp only [combine, ha, hcast] at hok
        cases hok
    exact iff_of_false (hfails l r hleft) (hfails left right fun _ => rfl)

end Operator

namespace Pass

variable {α : Type}

/-- Working off an operator that waits between its operands, while operands are
    regrouped. -/
theorem reduce_waiting (rounding : Rounding) (p : Pass) {op : Operator} (hop : op.combines)
    (left w : Value) :
    p.reduce rounding true [.value w, .op op, .value left] =
      (op.combine rounding left w).map fun v => p.withStack [.value v] := by
  have htriple : Stack.triple? [.value w, .op op, .value left] = some (op, left, w, []) := rfl
  simp only [reduce, Stack.collapse_of_triple rounding htriple, Operator.combine]
  cases happ : op.apply left w rounding with
  | defer l r =>
      rcases op.eq_junction_of_apply_eq_defer _ _ _ _ _ happ with rfl | rfl
      · cases hop
      · cases hop
  | _ => rfl

/-- Working off a regrouping. -/
theorem reduce_regrouped (rounding : Rounding) (p : Pass) {op next : Operator}
    (hop : op.combines) (hnext : next.combines) (left right n : Value) :
    p.reduce rounding true
        [.op next, .value n, .value right, .op op, .value left] =
      (op.regrouped next rounding left right n).map fun v => p.withStack [.value v] := by
  have htriple : Stack.triple? [.op next, .value n, .value right, .op op, .value left] =
      some (next, right, n, [.op op, .value left]) := rfl
  have hstep := Stack.collapse_of_triple? rounding htriple
  unfold Operator.regrouped Operator.grouped Operator.combine
  -- The operator on the right is applied first, and its value waits for the left one.
  cases happ : next.apply right n rounding with
  | push w =>
      have hwaiting := reduce_waiting rounding p hop left w
      unfold reduce at hwaiting ⊢
      rw [hstep, happ]
      exact hwaiting
  | defer l r =>
      rcases next.eq_junction_of_apply_eq_defer _ _ _ _ _ happ with rfl | rfl
      · cases hnext
      · cases hnext
  | _ =>
      unfold reduce
      rw [hstep, happ]
      rfl

/-- A pass that has handed its operands back awaits the right operand of the
    operator that takes the right one of them. -/
def grouping (p : Pass) (op : Operator) (left right : Value) (next : Operator) : Pass :=
  { p.withStack [] with expecting := .regroupRight op left right next }

/-- A pass that holds the value of a regrouping, which has been counted. -/
def regrouped (p : Pass) (v : Value) : Pass where
  frame := { p.frame with stack := [.value v], regrouped := p.frame.regrouped + 1 }
  outer := p.outer
  regroupings := p.regroupings + 1

/-- A value that completes a regrouping. -/
theorem place_grouping (rounding : Rounding) {p : Pass} (hcount : p.regroupings = 0)
    {op next : Operator} (hop : op.combines) (hnext : next.combines) (left right n : Value) :
    (p.grouping op left right next).place rounding (.regrouped op left right next) n =
      (op.regrouped next rounding left right n).map p.regrouped := by
  have hlimit : (p.grouping op left right next).regroupings < countLimit := by
    rw [grouping, withStack, hcount]
    decide
  rw [place_regrouped hlimit]
  exact reduce_regrouped rounding _ hop hnext left right n

/-- Operands that do not fit are handed back, if none were regrouped before. -/
theorem reduce_cast (rounding : Rounding) {p : Pass} (hcount : p.regroupings = 0)
    {op : Operator} {left right l r : Value} (h : op.apply left right rounding = .cast l r) :
    p.reduce rounding false [.op op, .value right, .value left] =
      .ok { p.withStack [] with expecting := .regroup op l r } := by
  have htriple : Stack.triple? [.op op, .value right, .value left] =
      some (op, left, right, []) := rfl
  simp only [reduce, Stack.collapse_of_triple rounding htriple, h, hcount]
  rfl

section

-- `p` holds one value and has not regrouped operands; an operator and an operand
-- that do not fit that value follow, and another operator.
variable {nested : Nested α} {rounding : Rounding} {env : Env} {source : String} {p : Pass}
  {tOp tRight tNext : Token α} {o : Operand α} {op next : Operator} {left right l r : Value}
  {vs mid : Variables} (hexp : p.expecting = .statement) (hclosed : p.frame.closed = false)
  (hcount : p.regroupings = 0) (hst : p.frame.stack = [.value left]) (hop : op.combines)
  (hcast : op.apply left right rounding = .cast l r) (htOp : tOp.kind = .operator op)
  (htRight : tRight.kind = .operand o) (htNext : tNext.kind = .operator next)
  (hright : (tRight.value nested env source o).outcome vs = (.ok right, mid))

include hexp hclosed hcount hst hop hcast htOp htRight htNext hright

/-- The operands that do not fit are handed back, and the next operator takes the
    right one. -/
theorem after_grouping (hnext : next.isStructural = false) :
    (after nested rounding env source p [tOp, tRight, tNext]).outcome vs =
      (.ok (p.grouping op l r next), mid) := by
  -- One lemma for each token: the operator, the operand it does not fit, and the operator
  -- that the regrouping needs.
  have hfirst : p.step nested rounding env source tOp = pure { p with expecting := .right op } := by
    simp only [step, htOp, feed, hexp, feedStatement, hst, operator_of_combines _ _ _ _ hop]
    rfl
  have hplace : ({ p with expecting := .right op } : Pass).place rounding (.right op) right =
      .ok { p.withStack [] with expecting := .regroup op l r } := by
    simp only [place, hst]
    exact reduce_cast rounding hcount hcast
  have hsecond : (step nested rounding env source { p with expecting := .right op }
      tRight).outcome vs = (.ok { p.withStack [] with expecting := .regroup op l r }, mid) := by
    rw [outcome_step_operand { p with expecting := .right op } hclosed Expecting.noConfusion rfl
      htRight hright, hplace]
    rfl
  have hthird : step nested rounding env source
      { p.withStack [] with expecting := .regroup op l r } tNext =
        pure (p.grouping op l r next) := by
    simp only [step, htNext, feed, Token.Kind.operator?, hnext, Bool.false_eq_true, if_false]
    rfl
  rw [after_cons, hfirst, pure_bind, after_cons, outcome_bind_of_ok _ _ _ _ _ hsecond, after_cons,
    hthird]
  rfl

/-- An operand that completes a regrouping. -/
theorem after_regrouped (hnext : next.combines) {tN : Token α} {oN : Operand α} {n : Value}
    {mid' : Variables} (htN : tN.kind = .operand oN)
    (hn : (tN.value nested env source oN).outcome mid = (.ok n, mid')) :
    (after nested rounding env source p [tOp, tRight, tNext, tN]).outcome vs =
      ((Eval.ofExcept ((op.regrouped next rounding l r n).map p.regrouped)).locate source
        tN.span.stop).outcome mid' := by
  have hstructural : next.isStructural = false := by
    cases next with
    | ternary | ternaryElse | endOfStatement => cases hnext
    | _ => rfl
  have hgrouping := after_grouping hexp hclosed hcount hst hop hcast htOp htRight htNext hright
    hstructural
  -- The fourth token is the operand on which both operators are applied.
  have hlast : ((p.grouping op l r next).step nested rounding env source tN).outcome mid =
      ((Eval.ofExcept ((op.regrouped next rounding l r n).map p.regrouped)).locate source
        tN.span.stop).outcome mid' := by
    rw [outcome_step_operand (p.grouping op l r next) hclosed Expecting.noConfusion rfl htN hn,
      place_grouping rounding hcount hop hnext]
  have hsplit : [tOp, tRight, tNext, tN] = [tOp, tRight, tNext] ++ [tN] := rfl
  rw [hsplit, after_append, outcome_bind_of_ok _ _ _ _ _ hgrouping, after_cons]
  simp only [after_nil, bind_pure]
  exact hlast

end

/-- In a run that holds one value and has not regrouped operands, an operator and an
    operand that does not fit follow, and another operator. Whatever value `n`
    comes next, the run goes on with the value of the operands grouped to the
    right, or fails as the grouped operands do. The exception is `or`, which clears
    the stack when it takes an operand that is not empty: the run goes on with that
    operand alone, and what stood to the left of it is lost. -/
theorem grouping_eq_grouped (nested : Nested α) (rounding : Rounding) (env : Env)
    (source : String) (ts : List (Token α)) (p : Pass) (tOp tRight tNext : Token α)
    (o : Operand α) (op next : Operator) (left right l r : Value) (vs₀ vs mid : Variables)
    (hp : (after nested rounding env source start ts).outcome vs₀ = (.ok p, vs))
    (hexp : p.expecting = .statement) (hst : p.frame.stack = [.value left])
    (hcount : p.regroupings = 0) (hop : op ≠ .and)
    (hcast : op.apply left right rounding = .cast l r) (hnext : next.combines = true)
    (htOp : tOp.kind = .operator op) (htRight : tRight.kind = .operand o)
    (htNext : tNext.kind = .operator next)
    (hright : (tRight.value nested env source o).outcome vs = (.ok right, mid)) :
    (after nested rounding env source p [tOp, tRight, tNext]).outcome vs =
        (.ok (p.grouping op l r next), mid) ∧
      ∀ n,
        (p.grouping op l r next).place rounding (.regrouped op l r next) n =
          (op.regrouped next rounding l r n).map p.regrouped ∧
        (∀ (tN : Token α) (oN : Operand α) (mid' : Variables), tN.kind = .operand oN →
          (tN.value nested env source oN).outcome mid = (.ok n, mid') →
          (after nested rounding env source p [tOp, tRight, tNext, tN]).outcome vs =
            ((Eval.ofExcept ((op.regrouped next rounding l r n).map p.regrouped)).locate source
              tN.span.stop).outcome mid') ∧
        ((∀ w, next.apply r n rounding ≠ .replace w) → ∀ v,
          op.regrouped next rounding l r n = .ok v ↔
            op.grouped next rounding left right n = .ok v) ∧
        ∀ w, next.apply r n rounding = .replace w →
          next = .coalesce ∧ op.regrouped next rounding l r n = .ok w := by
  have hlingers : p.Lingers :=
    (after_lingers nested rounding env source start ts lingers_start).of_ok hp
  have hclosed := hlingers.closed_eq_false (by rw [hexp]; rfl)
  -- An operator that asks for a cast is one that combines, so the pass can regroup it.
  have hcombines := Operator.combines_of_cast hop hcast
  have hnot : next.isStructural = false ∧ next ≠ .and ∧ next ≠ .or := by
    cases next with
    | and | or | ternary | ternaryElse | endOfStatement => cases hnext
    | _ => exact ⟨rfl, Operator.noConfusion, Operator.noConfusion⟩
  refine ⟨after_grouping hexp hclosed hcount hst hcombines hcast htOp htRight htNext hright hnot.1,
    fun n => ⟨?_, fun tN oN mid' htN hn => ?_, fun hkept v => ?_, fun w hw => ?_⟩⟩
  · exact place_grouping rounding hcount hcombines hnext l r n
  · exact after_regrouped hexp hclosed hcount hst hcombines hcast htOp htRight htNext hright hnext
      htN hn
  · rw [Operator.regrouped_of_ne_replace hkept]
    exact Operator.grouped_cast hop hcast n v
  · exact ⟨Operator.eq_coalesce_of_apply_eq_replace hnot.2.1 hnot.2.2 hw,
      Operator.regrouped_of_replace hw⟩

/-- The tokens of `10 - '' or 3`. -/
def clearedTokens : List (Token String) :=
  [⟨.operand (.literal (.int 10)), ⟨0, 2⟩, false⟩, ⟨.operator .sub, ⟨3, 4⟩, false⟩,
    ⟨.operand (.literal (.str "")), ⟨5, 7⟩, false⟩, ⟨.operator .coalesce, ⟨8, 10⟩, false⟩,
    ⟨.operand (.literal (.int 3)), ⟨11, 12⟩, false⟩]

/-- `10 - '' or 3` comes to three, and `10 - ('' or 3)` would come to seven. -/
theorem grouping_eq_grouped_cleared :
    Token.read "10 - '' or 3" = ⟨clearedTokens, .finished false⟩ ∧
    Operator.sub.grouped .coalesce .halfDown (.int 10) (.str "") (.int 3) =
      .ok (.decimal ⟨7, 0⟩) ∧
    (after (Interpret.evaluator {} ⟨.null, .null⟩) .halfDown ⟨.null, .null⟩ "10 - '' or 3" start
      clearedTokens).outcome (.ofGlobals .empty) =
        (.ok ((holding (.int 10)).regrouped (.int 3)), .ofGlobals .empty) := by
  have hread : Token.read "10 - '' or 3" = ⟨clearedTokens, .finished false⟩ := by
    rw [Token.read_eq 13 (by decide)]
    rfl
  have hfirst : (after (Interpret.evaluator {} ⟨.null, .null⟩) .halfDown ⟨.null, .null⟩
      "10 - '' or 3" start (clearedTokens.take 1)).outcome (.ofGlobals .empty) =
        (.ok (holding (.int 10)), .ofGlobals .empty) := rfl
  have hcleared := ((grouping_eq_grouped _ _ _ _ _ _ clearedTokens[1] clearedTokens[2]
    clearedTokens[3] (.literal (.str "")) .sub .coalesce (.int 10) (.str "") (.decimal ⟨10, 0⟩)
    (.str "") _ _ (.ofGlobals .empty) hfirst rfl rfl rfl Operator.noConfusion
    (by with_unfolding_all rfl) rfl rfl rfl rfl rfl).2 (.int 3)).2.1 clearedTokens[4]
    (.literal (.int 3)) (.ofGlobals .empty) rfl rfl
  have hsplit : clearedTokens = clearedTokens.take 1 ++ [clearedTokens[1], clearedTokens[2],
    clearedTokens[3], clearedTokens[4]] := rfl
  refine ⟨hread, by with_unfolding_all rfl, ?_⟩
  rw [hsplit, after_append, outcome_bind_of_ok _ _ _ _ _ hfirst, hcleared]
  with_unfolding_all rfl

end Pass

end Reckon
