import Reckon.Proofs.Collapse
import Reckon.Proofs.Exchange
import Reckon.Proofs.Reading

/-!
# Chains of Operands

A chain is an operand and then any number of operators, each with an operand to
its right. No operator of a chain decides what becomes of the statement, and
there is no precedence among them: the value of a chain is that of combining
its operands from left to right (`Chain.fold`).

The fold is an evaluation, so it also says when an operand is evaluated: after
all operators to its left were applied, once, and not at all if something to
its left failed. The operands that an operator does not take are the exception
that makes regrouping possible, and a chain in which that happens is no fold
(`CastFree` excludes it).

Between two links a pass holds nothing but the value so far (`Pass.holding`).
One link takes it to the next value (`Pass.after_link`), and an induction on
the links does the rest.

## Main definitions

* `Term`, `Link`, `Chain`: An operand, an operator with one, and a chain.
* `Operator.combine`: What an operator makes of two operands.
* `Link.apply`: The next value of a chain.
* `Chain.fold`: The value of a chain, from left to right.
* `Chain.CastFree`: No operator on the way has operands it does not take.

## Theorems

* `Pass.after_link`: One link.
* `Pass.after_links`: All links.
* `Chain.run_eq_fold`: A pass over a chain is the fold.
* `Chain.whole_eq_fold`: So are the values of a text and of a program.
-/

namespace Reckon

open Eval

/-- What an operator makes of two operands, if it takes them. -/
def Operator.combine (op : Operator) (rounding : Rounding) (left right : Value) :
    Except Cause Value :=
  match op.apply left right rounding with
  | .push v | .replace v => .ok v
  | .fail cause => .error cause
  | .cast left right | .defer left right =>
    .error (.incompatible op left.kindName right.kindName)

/-- An operand in a text, with its negation. -/
structure Term (α : Type) where
  operand : Operand α
  span : Span
  negated : Bool

/-- An operator in a text, with the operand to its right. -/
structure Link (α : Type) where
  op : Operator
  span : Span
  right : Term α

/-- An operand, and any number of operators with operands to their right. -/
structure Chain (α : Type) where
  first : Term α
  links : List (Link α)

namespace Term

variable {α : Type}

def token (x : Term α) : Token α := ⟨.operand x.operand, x.span, x.negated⟩

/-- The value of an operand. -/
def value (nested : Nested α) (env : Env) (source : String) (x : Term α) : Eval Value :=
  x.token.value nested env source x.operand

end Term

namespace Link

variable {α : Type}

def tokens (ℓ : Link α) : List (Token α) :=
  [⟨.operator ℓ.op, ℓ.span, false⟩, ℓ.right.token]

/-- The next value of a chain: the operand is evaluated, and then the operator
    is applied. -/
def apply (nested : Nested α) (rounding : Rounding) (env : Env) (source : String) (acc : Value)
    (ℓ : Link α) : Eval Value :=
  (do
    let v ← ℓ.right.value nested env source
    ofExcept (ℓ.op.combine rounding acc v)).locate source ℓ.right.span.stop

/-- Whether the operator of no link refuses the kinds of its operands, from the
    value `acc` on. -/
def CastFree (nested : Nested α) (rounding : Rounding) (env : Env) (source : String) :
    Value → List (Link α) → Variables → Prop
  | _, [], _ => True
  | acc, ℓ :: links, vs =>
    ∀ v mid, (ℓ.right.value nested env source).outcome vs = (.ok v, mid) →
      (∀ left right, ℓ.op.apply acc v rounding ≠ .cast left right) ∧
        ∀ acc', ℓ.op.combine rounding acc v = .ok acc' →
          CastFree nested rounding env source acc' links mid

end Link

namespace Chain

variable {α : Type}

def tokens (c : Chain α) : List (Token α) :=
  c.first.token :: c.links.flatMap Link.tokens

/-- The value of a chain, from left to right. -/
def fold (nested : Nested α) (rounding : Rounding) (env : Env) (source : String) (c : Chain α) :
    Eval Value := do
  let v ← (c.first.value nested env source).locate source c.first.span.stop
  c.links.foldlM (Link.apply nested rounding env source) v

/-- Whether no operator on the way from left to right refuses the kinds of its
    operands. -/
def CastFree (nested : Nested α) (rounding : Rounding) (env : Env) (source : String)
    (c : Chain α) (vs : Variables) : Prop :=
  ∀ v mid, (c.first.value nested env source).outcome vs = (.ok v, mid) →
    Link.CastFree nested rounding env source v c.links mid

end Chain

namespace Pass

variable {α : Type}

/-- A pass that holds one value, with nothing around it. -/
def holding (v : Value) : Pass :=
  { frame := { stack := [.value v], seen := true } }

/-- Working off one operator with its operands, if it takes them. -/
theorem reduce_triple (rounding : Rounding) (p : Pass) (op : Operator) (left right : Value)
    (hop : op.combines) (hcast : ∀ l r, op.apply left right rounding ≠ .cast l r) :
    p.reduce rounding false [.op op, .value right, .value left] =
      (op.combine rounding left right).map fun v => p.withStack [.value v] := by
  have htriple : Stack.triple? [.op op, .value right, .value left] =
      some (op, left, right, []) := rfl
  simp only [reduce, Stack.collapse_of_triple rounding htriple, Operator.combine]
  cases happ : op.apply left right rounding with
  | cast l r => exact absurd happ (hcast l r)
  | defer l r =>
      rcases op.eq_junction_of_apply_eq_defer _ _ _ _ _ happ with rfl | rfl
      · cases hop
      · cases hop
  | _ => rfl

/-- An operator of a chain waits for its right operand. -/
theorem feed_operator_holding (rounding : Rounding) (acc : Value) (op : Operator)
    (shown : String) (value : Operand α → Eval Value) (hop : op.combines) :
    (holding acc).feed rounding (.operator op) shown value =
      pure { holding acc with expecting := .right op } :=
  operator_of_combines rounding (holding acc) acc [] hop

/-- The right operand of an operator of a chain is evaluated, and then the
    operator is applied. -/
theorem feed_operand_holding (rounding : Rounding) (acc : Value) (op : Operator)
    (o : Operand α) (shown : String) (value : Operand α → Eval Value) (vs : Variables)
    (hop : op.combines)
    (hcast : ∀ v mid, (value o).outcome vs = (.ok v, mid) →
      ∀ l r, op.apply acc v rounding ≠ .cast l r) :
    (({ holding acc with expecting := .right op } : Pass).feed rounding (.operand o) shown
      value).outcome vs =
      (holding <$> (do
        let v ← value o
        ofExcept (op.combine rounding acc v))).outcome vs := by
  rw [feed_operand rounding _ (.right op) o shown value rfl, map_bind]
  refine outcome_bind_congr _ _ _ _ vs rfl fun v mid hv => ?_
  -- No cast is asked for, so combining never gets stuck.
  have hplace : (({ holding acc with expecting := .right op } : Pass).ready).place rounding
      (.right op) v = (op.combine rounding acc v).map holding :=
    reduce_triple rounding _ op acc v hop (hcast v mid hv)
  rw [hplace]
  cases op.combine rounding acc v <;> rfl

/-- One link takes a pass from one value of the chain to the next. -/
theorem after_link (nested : Nested α) (rounding : Rounding) (env : Env) (source : String)
    (acc : Value) (ℓ : Link α) (vs : Variables) (hop : ℓ.op.combines)
    (hcast : ∀ v mid, (ℓ.right.value nested env source).outcome vs = (.ok v, mid) →
      ∀ l r, ℓ.op.apply acc v rounding ≠ .cast l r) :
    (after nested rounding env source (holding acc) ℓ.tokens).outcome vs =
      (holding <$> ℓ.apply nested rounding env source acc).outcome vs := by
  have hoperator (t : Token α) (ht : t.kind = .operator ℓ.op) :
      step nested rounding env source (holding acc) t =
        pure { holding acc with expecting := .right ℓ.op } := by
    unfold step
    rw [ht, feed_operator_holding rounding acc ℓ.op _ _ hop]
    rfl
  -- The operator first, and then its operand.
  rw [Link.tokens, after_cons, hoperator _ rfl, pure_bind, after_cons]
  simp only [after_nil, bind_pure]
  unfold Link.apply step locate
  rw [← mapError_map]
  exact outcome_mapError_congr _ _ _ vs
    (feed_operand_holding rounding acc ℓ.op ℓ.right.operand _ _ vs hop hcast)

/-- The links of a chain take a pass to the value that combining the operands
    from left to right comes to. -/
theorem after_links (nested : Nested α) (rounding : Rounding) (env : Env) (source : String)
    (acc : Value) (links : List (Link α)) (vs : Variables) (hop : ∀ ℓ ∈ links, ℓ.op.combines)
    (hcast : Link.CastFree nested rounding env source acc links vs) :
    (after nested rounding env source (holding acc) (links.flatMap Link.tokens)).outcome vs =
      (holding <$> links.foldlM (Link.apply nested rounding env source) acc).outcome vs := by
  induction links generalizing acc vs with
  | nil => rfl
  | cons ℓ links ih =>
      have hlink := after_link nested rounding env source acc ℓ vs (hop ℓ List.mem_cons_self)
        fun v mid hv => (hcast v mid hv).1
      rw [List.flatMap_cons, after_append, List.foldlM_cons, map_bind]
      refine (outcome_bind_congr _ _ _ _ vs hlink fun _ _ _ => rfl).trans ?_
      rw [bind_map_left]
      refine outcome_bind_congr _ _ _ _ vs rfl fun acc' mid hacc => ?_
      refine ih acc' mid (fun m hm => hop m (List.mem_cons_of_mem _ hm)) ?_
      -- The next value comes from an operand and from applying the operator to it.
      unfold Link.apply at hacc
      rw [outcome_locate_eq_ok, outcome_bind_eq_ok] at hacc
      rcases hacc with ⟨v, mid', hv, hcombine⟩
      rw [outcome_ofExcept_eq_ok] at hcombine
      rcases hcombine with ⟨hcombine, rfl⟩
      exact (hcast v mid' hv).2 acc' hcombine

/-- A pass that holds a value comes to it. -/
theorem stop_holding (rounding : Rounding) (v : Value) (leftover : Bool) :
    (holding v).stop rounding (.finished leftover) = pure v := rfl

end Pass

namespace Chain

variable {α : Type}

/-- A pass over a chain comes to what combining the operands from left to right
    comes to. -/
theorem run_eq_fold (nested : Nested α) (rounding : Rounding) (env : Env) (source : String)
    (c : Chain α) (leftover : Bool) (vs : Variables) (hop : ∀ ℓ ∈ c.links, ℓ.op.combines)
    (hcast : c.CastFree nested rounding env source vs) :
    (Pass.run nested rounding env source ⟨c.tokens, .finished leftover⟩).outcome vs =
      (c.fold nested rounding env source).outcome vs := by
  have hfirst : Pass.step nested rounding env source Pass.start c.first.token =
      Pass.holding <$> (c.first.value nested env source).locate source c.first.span.stop := by
    unfold Pass.step locate
    rw [← mapError_map]
    rfl
  have hlinks (v : Value) (mid : Variables)
      (hv : ((c.first.value nested env source).locate source c.first.span.stop).outcome vs =
        (.ok v, mid)) :
      (Pass.after nested rounding env source (Pass.holding v)
        (c.links.flatMap Link.tokens)).outcome mid =
        (Pass.holding <$> c.links.foldlM (Link.apply nested rounding env source) v).outcome mid :=
    Pass.after_links nested rounding env source v c.links mid hop
      (hcast v mid ((outcome_locate_eq_ok _ _ _ _ _ _).mp hv))
  -- The first operand, the links, and the end, which hands the value over.
  unfold Pass.run fold
  rw [Pass.runFrom_eq, tokens, Pass.after_cons, hfirst, bind_map_left, bind_assoc]
  refine outcome_bind_congr _ _ _ _ vs rfl fun v mid hv => ?_
  refine (outcome_bind_congr _ _ _ _ mid (hlinks v mid hv) fun _ _ _ => rfl).trans ?_
  rw [bind_map_left]
  simp only [Pass.stop_holding, locate, mapError_pure, bind_pure]

/-- The value of a text whose tokens are a chain, and of a program that is one,
    is what combining the operands from left to right comes to, value or error
    and all uses of the variables, unless an operator refuses the kinds of its
    operands. -/
theorem whole_eq_fold (config : Config) (env : Env) (vs : Variables) :
    (∀ (text : String) (c : Chain String) (leftover : Bool),
      Token.read text = ⟨c.tokens, .finished leftover⟩ → (∀ ℓ ∈ c.links, ℓ.op.combines) →
      c.CastFree (Interpret.evaluator config env) config.rounding env text vs →
        (Interpret.whole config env text).outcome vs =
          (config.coerceWhole <$> c.fold (Interpret.evaluator config env) config.rounding env
            text).outcome vs) ∧
    ∀ (p : Program) (c : Chain Program), p.nodes = c.tokens → (∀ ℓ ∈ c.links, ℓ.op.combines) →
      c.CastFree (Program.evaluator config env) config.rounding env p.source vs →
        (p.run config env).outcome vs =
          (config.coerceWhole <$> c.fold (Program.evaluator config env) config.rounding env
            p.source).outcome vs := by
  -- Both evaluations run one and the same pass, on tokens or on nodes.
  constructor
  · intro text c leftover hread hop hcast
    rw [Interpret.whole_eq, hread, outcome_map, outcome_map, run_eq_fold _ _ _ _ _ _ _ hop hcast]
  · intro p c hnodes hop hcast
    rw [Program.run_eq, Program.toReading, hnodes, outcome_map, outcome_map,
      run_eq_fold _ _ _ _ _ _ _ hop hcast]

/-- The chain `1 + 2 * 3`. -/
def sumThenProduct (α : Type) : Chain α where
  first := ⟨.literal (.int 1), ⟨0, 1⟩, false⟩
  links :=
    [⟨.add, ⟨2, 3⟩, ⟨.literal (.int 2), ⟨4, 5⟩, false⟩⟩,
      ⟨.mul, ⟨6, 7⟩, ⟨.literal (.int 3), ⟨8, 9⟩, false⟩⟩]

theorem castFree_sumThenProduct {α : Type} (nested : Nested α) (rounding : Rounding) (env : Env)
    (source : String) (vs : Variables) :
    (sumThenProduct α).CastFree nested rounding env source vs := by
  have hsum : Operator.add.apply (.int 1) (.int 2) rounding = .push (.decimal ⟨3, 0⟩) := by rfl
  have hproduct : Operator.mul.apply (.decimal ⟨3, 0⟩) (.int 3) rounding =
      .push (.decimal ⟨9, 0⟩) := by rfl
  -- The first operand is 1, and the right operand of the sum is 2.
  rintro v mid hv
  cases hv
  rintro v mid hv
  cases hv
  refine ⟨fun l r => by rw [hsum]; nofun, fun acc' hacc => ?_⟩
  rw [Operator.combine, hsum] at hacc
  cases hacc
  rintro v mid hv
  cases hv
  exact ⟨fun l r => by rw [hproduct]; nofun, fun _ _ => trivial⟩

theorem read_sumThenProduct :
    Token.read "1 + 2 * 3" = ⟨(sumThenProduct String).tokens, .finished false⟩ := by
  rw [Token.read_eq 10 (by decide)]
  rfl

/-- There is no precedence: `1 + 2 * 3` comes to 9, as a text and as a
    program. -/
theorem whole_eq_fold_nine :
    (Interpret.whole {} ⟨.null, .null⟩ "1 + 2 * 3").outcome (.ofGlobals .empty) =
      (.ok (.int 9), .ofGlobals .empty) ∧
    (Program.run {} ⟨.null, .null⟩ ⟨"1 + 2 * 3", (sumThenProduct Program).tokens⟩).outcome
      (.ofGlobals .empty) = (.ok (.int 9), .ofGlobals .empty) := by
  have hfold := whole_eq_fold {} ⟨.null, .null⟩ (.ofGlobals .empty)
  constructor
  · rw [hfold.1 _ _ _ read_sumThenProduct (by decide) (castFree_sumThenProduct _ _ _ _ _)]
    rfl
  · rw [hfold.2 _ _ rfl (by decide) (castFree_sumThenProduct _ _ _ _ _)]
    rfl

end Chain

end Reckon
