import Reckon.Pass

/-!
# Reducers

A reducer works through an expression as its tokens are pulled, one at a time and
only when the next one is needed. Tokens come from the reader of a text, or from a
program that was read before; both are a source. What a reducer does not pull is not
read.

Where a pass keeps the assignments that it is inside of in a list, the value of an
assignment is reduced here by another reducer, which pulls from the same source and
hands the rest of it back. A reducer is done when no token is left. Some of the
things that operators do can end it sooner: it tells by a signal whether it goes on.
An assignment ends with its statement, and a reducer that skips tokens ends where it
finds none to go on with.

Reducing and reading one token after the other in a pass come to the same. A reducer
may stop early and a pass never does, so that is something to be proved.

## Main definitions

* `Source`: Where tokens are pulled from.
* `Pulling`: Evaluations that pull tokens.
* `Reducer`: A statement being reduced.
* `Reducer.reduce`: Pulling tokens until none is left or the statement has ended.
* `Reducer.run`, `Reducer.eval`: The value of an expression whose tokens are pulled from a
  source.
-/

namespace Reckon

/-- Where tokens are pulled from. What is left of a source is of type `σ`. -/
structure Source (σ α : Type) where
  /-- The next token and what is left after it; `none` where there is none. -/
  next? : σ → Except Token.Fault (Option (Token α × σ))
  /-- Whether anything is left, as far as can be told without pulling it. -/
  hasMore : σ → Bool
  /-- The end of the token that was pulled last. -/
  cursor : σ → Nat
  /-- The text that the tokens stand in. -/
  expr : String
  /-- A number that there are fewer tokens than. -/
  bound : σ → Nat

namespace Source

/-- The tokens of a text, as they are read. -/
def ofText (text : String) : Source Reader String where
  next? := Reader.next?
  hasMore := Reader.hasMore
  cursor := Reader.offset
  expr := text
  bound r := r.tail.length + 1

/-- Tokens of a text that were read before, with the end of the one before them. -/
def ofTokens {α : Type} (text : String) : Source (List (Token α) × Nat) α where
  next?
    | ([], _) => .ok none
    | (t :: ts, _) => .ok (some (t, ts, t.span.stop))
  hasMore rest := !rest.1.isEmpty
  cursor := Prod.snd
  expr := text
  bound rest := rest.1.length + 1

end Source

/-- Evaluations that pull tokens as they go. What is left of the source is known
    after an error too. -/
abbrev Pulling (σ α : Type) := ExceptT Error (StateT σ (StateM Variables)) α

namespace Pulling

variable {σ α β : Type}

/-- The outcome of pulling from a source, from given variables, with what it leaves
    of both. -/
def outcome (m : Pulling σ α) (s : σ) (vs : Variables) : (Except Error α × σ) × Variables :=
  ((ExceptT.run m).run s).run vs

/-- Pulling tokens, from its outcomes. -/
def ofOutcome (f : σ → Variables → (Except Error α × σ) × Variables) : Pulling σ α :=
  ExceptT.mk fun s vs => f s vs

/-- What fails without pulling anything. -/
def fail (cause : Cause) : Pulling σ α :=
  throw (Error.of cause)

/-- An evaluation, which pulls nothing. -/
def ofEval (m : Eval α) : Pulling σ α :=
  ofOutcome fun s vs =>
    let (result, vs) := m.outcome vs
    ((result, s), vs)

/-- The next token of a source, if there is one. -/
def next (src : Source σ β) : Pulling σ (Option (Token β)) :=
  ofOutcome fun s vs =>
    match src.next? s with
    | .error fault => ((.error (Error.ofFault fault), s), vs)
    | .ok none => ((.ok none, s), vs)
    | .ok (some (t, s)) => ((.ok (some t), s), vs)

/-- Whether anything is left of a source. -/
def hasMore (src : Source σ β) : Pulling σ Bool :=
  ofOutcome fun s vs => ((.ok (src.hasMore s), s), vs)

/-- The same with its error placed at the end of the token that was pulled last,
    unless it already has a place. -/
def locate (src : Source σ β) (m : Pulling σ α) : Pulling σ α :=
  ofOutcome fun s vs =>
    match m.outcome s vs with
    | ((.error e, s), vs) => ((.error (e.located src.expr (src.cursor s)), s), vs)
    | ((.ok a, s), vs) => ((.ok a, s), vs)

end Pulling

/-- Whether a reducer goes on after an operator. -/
inductive Signal where
  /-- It stops here. -/
  | abort
  /-- It goes on with the next token. -/
  | proceed
  /-- The operator takes a right operand. -/
  | fallthrough
deriving DecidableEq, Repr

/-- A statement being reduced. -/
structure Reducer where
  stack : Stack := []
  /-- Whether the statement is the value of an assignment. -/
  assigns : Bool := false
  /-- Whether operands are being regrouped. -/
  lookahead : Bool := false
  /-- How often operands were regrouped, in the assignments inside it as well. -/
  retries : Nat := 0
  /-- Whether an assignment inside it has met the end of its statement. -/
  closed : Bool := false
  /-- Whether an operand has been reduced. -/
  seen : Bool := false
deriving Inhabited

namespace Reducer

variable {σ α : Type}

section Operands

variable (src : Source σ α) (nested : Nested α) (env : Env) (rounding : Rounding)
  (reduce : Reducer → Pulling σ Reducer)

/-- The value of an assignment, stored under its name. Another reducer, which is run
    by `reduce`, takes the rest of the statement. -/
def assign (name : String) (r : Reducer) : Pulling σ (Value × Reducer) := do
  -- The count of regroupings is handed in and taken back, so it is one for the whole text.
  let inner ← reduce { assigns := true, retries := r.retries }
  let r := { r with retries := inner.retries, closed := inner.closed }
  match inner.stack with
  | [.value v] =>
    Pulling.ofEval (Eval.assign name v)
    return (v, r)
  | _ :: _ :: _ => Pulling.fail (.illFormed .incomplete)
  | _ => Pulling.fail (.illFormed (.missingValue name))

/-- The value of a token that is an operand or starts an assignment. -/
def operand (t : Token α) (r : Reducer) : Pulling σ (Value × Reducer) := do
  let (v, r) ←
    match t.kind with
    | .operand o => do
      let v ← Pulling.ofEval (o.value nested env src.expr (t.span.start + 1))
      pure (v, r)
    | .assign name => assign reduce name r
    | .operator op =>
      Pulling.fail (.illFormed (.note ("expected an operand, found `" ++ op.symbol ++ "`")))
  if t.negated then
    let v ← Pulling.ofEval (Operand.inverse v)
    return (v, r)
  else return (v, r)

/-- How a token is shown. -/
def shown (t : Token α) : String :=
  (t.map nested.text).text

/-- The operand to the right of an operator. -/
def nextOperand (op : Operator) (r : Reducer) : Pulling σ (Value × Reducer) := do
  match ← Pulling.next src with
  | none => Pulling.fail (.illFormed (.missingAfter op))
  | some t =>
    match t.kind.operator? with
    | some _ => Pulling.fail (.illFormed (.afterOperator (shown nested t) op))
    | none => operand src nested env reduce t r

/-- A stack worked off, where `stuck` deals with operands that do not fit. -/
def workOff (stuck : Operator → Value → Value → Reducer → Pulling σ Reducer) (r : Reducer) :
    Pulling σ Reducer :=
  match r.stack.collapse rounding with
  | .error cause => Pulling.fail cause
  | .ok (.settled stack) => return { r with stack }
  | .ok (.stuck op left right below) => stuck op left right { r with stack := below }

/-- Operands that do not fit, of which the next operator takes the right one, unless
    that was done before or is being done. -/
def regroup : Bool → Operator → Value → Value → Reducer → Pulling σ Reducer
  | true, op, left, right, _ => Pulling.fail (.incompatible op left.kindName right.kindName)
  | false, op, left, right, r => do
    let incompatible : Cause := .incompatible op left.kindName right.kindName
    if maxRegroupings ≤ r.retries then Pulling.fail incompatible
    else
      match ← Pulling.next src with
      | none => Pulling.fail incompatible
      | some t =>
        match t.kind.operator? with
        | none => Pulling.fail incompatible
        | some next =>
          if next.isStructural then Pulling.fail incompatible
          else
            let (v, r) ← nextOperand src nested env reduce next r
            -- The operand may hold assignments, in which the count was raised meanwhile.
            if countLimit ≤ r.retries then Pulling.fail (.failure .overflow)
            else
              let stack :=
                .op next :: .value v :: .value right :: .op op :: .value left :: r.stack
              let r := { r with stack, retries := r.retries + 1, lookahead := true }
              let r ← workOff rounding (regroup true) r
              return { r with lookahead := false }
termination_by lookahead => if lookahead then 0 else 1

/-- The stack worked off after an operator and its right operand were put on it. -/
def combine (r : Reducer) : Pulling σ Reducer :=
  workOff rounding (regroup src nested env rounding reduce r.lookahead) r

end Operands

section Statements

variable (src : Source σ α)

/-- The end of a statement. The reducer of an assignment stops here. Otherwise the
    value is dropped if anything follows. -/
def endStatement (r : Reducer) : Pulling σ (Signal × Reducer) := do
  if 1 < r.stack.length then Pulling.fail (.illFormed .incomplete)
  else if r.assigns then return (.abort, { r with closed := true })
  -- Marks in pairs before the end of the text count as something to come.
  else if ← Pulling.hasMore src then return (.proceed, { r with stack := [] })
  else return (.proceed, r)

/-- The statement ended if an assignment inside it has met its end. -/
def settle (r : Reducer) : Pulling σ (Signal × Reducer) :=
  if r.closed then endStatement src { r with closed := false } else return (.proceed, r)

/-- Tokens skipped up to the end of the statement, in so many turns at most. -/
def skipStatement : Nat → Reducer → Pulling σ (Signal × Reducer)
  | 0, _ => Pulling.fail .nothingToDo
  | n + 1, r => do
    match ← Pulling.next src with
    | none => return (.abort, r)
    | some t =>
      match t.kind.operator? with
      | some .endOfStatement => endStatement src r
      | _ => skipStatement n r

/-- Tokens skipped up to the other branch, with `depth` branches inside that are
    still open. -/
def skipElse : Nat → Nat → Reducer → Pulling σ (Signal × Reducer)
  | 0, _, _ => Pulling.fail .nothingToDo
  | n + 1, depth, r => do
    match ← Pulling.next src with
    | none => return (.abort, r)
    | some t =>
      match t.kind.operator?, depth with
      | some .ternary, _ => skipElse n (depth + 1) r
      | some .ternaryElse, 0 => return (.proceed, r)
      | some .ternaryElse, depth + 1 => skipElse n depth r
      | some .endOfStatement, _ => endStatement src r
      | _, _ => skipElse n depth r

/-- What an operator that follows a value does before it takes an operand. -/
def branch (n : Nat) (op : Operator) (r : Reducer) : Pulling σ (Signal × Reducer) :=
  match op with
  | .and | .or =>
    match r.stack with
    | .value (.bool b) :: below =>
      if b == (op == .or) then skipStatement src n r
      else return (.proceed, { r with stack := below })
    | _ => return (.proceed, { r with stack := r.stack.tail })
  | .ternary =>
    match r.stack with
    | .value (.bool true) :: below => return (.proceed, { r with stack := below })
    | .value (.bool false) :: _ => skipElse src n 0 { r with stack := [] }
    | .value v :: _ => Pulling.fail (.mismatch (.ternaryCondition v.kindName))
    | _ => Pulling.fail (.illFormed (.note "missing ternary condition"))
  | .ternaryElse => skipStatement src n r
  | .endOfStatement => endStatement src r
  | _ => return (.fallthrough, r)

end Statements

section Runs

variable (src : Source σ α) (nested : Nested α) (rounding : Rounding) (env : Env)

/-- A statement reduced, token after token, until none is left or a signal stops it.
    It takes so many turns at most; `run` allows for more than there are tokens. -/
def reduce : Nat → Reducer → Pulling σ Reducer
  | 0, _ => Pulling.fail .nothingToDo
  | n + 1, r => do
    match ← Pulling.next src with
    | none => return r
    | some t =>
      match t.kind.operator?, r.stack with
      | none, .value _ :: _ => Pulling.fail (.illFormed (.afterOperand (shown nested t)))
      | none, _ =>
        let (v, r) ← operand src nested env (reduce n) t r
        let (signal, r) ← settle src { r with stack := .value v :: r.stack, seen := true }
        if signal = .abort then return r else reduce n r
      | some op, .value _ :: _ =>
        let (signal, r) ← branch src n op r
        match signal with
        | .abort => return r
        | .proceed => reduce n r
        | .fallthrough =>
          let (v, r) ← nextOperand src nested env (reduce n) op r
          let r ← combine src nested env rounding (reduce n)
            { r with stack := .op op :: .value v :: r.stack }
          let (signal, r) ← settle src r
          if signal = .abort then return r else reduce n r
      | some op, _ =>
        -- An empty statement, as for a pass.
        if op = .endOfStatement ∧ r.assigns = false then reduce n r
        else Pulling.fail (.illFormed (.missingBefore op))

/-- The value that a reducer has come to, as the result of an expression. -/
def result (r : Reducer) : Except Cause Value :=
  ({ stack := r.stack, seen := r.seen } : Frame).result

/-- The value of an expression whose tokens are pulled from a source. -/
def run : Pulling σ Value :=
  Pulling.locate src do
    let s ← get
    -- Every turn pulls a token, so the bound of the source is never used up.
    let r ← reduce src nested rounding env (src.bound s) {}
    Pulling.ofEval (Eval.ofExcept r.result)

/-- The same as an evaluation, for tokens pulled from `s`. What is left of the source in
    the end is not looked at. -/
def eval (s : σ) : Eval Value :=
  Eval.ofOutcome fun vs =>
    let ((result, _), vs) := (run src nested rounding env).outcome s vs
    (result, vs)

end Runs

end Reducer

end Reckon
