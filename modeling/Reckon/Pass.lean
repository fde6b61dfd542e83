import Reckon.Operand
import Reckon.Operation
import Reckon.Token.Reader

/-!
# Passes

A pass reads the tokens of one expression, one by one, and comes to a value. No
tree is built: operands and operators go on a stack, and each operator is
applied as soon as its right operand is there. The value of a chain of operands
is therefore that of combining them from left to right.

Besides operands and combining operators, a pass knows five things that may
follow a value. `&&` and `||` either settle the statement, so that the rest of
it is skipped, or drop the value and go on. `?` takes the value as a condition,
and either goes on or skips to its `:`. A `:` that is reached skips the rest of
the statement. `;` ends the statement, whose value is dropped if another one
follows.

*Regrouping.* If the operands of an operator have the wrong kinds, the next
operator is allowed to take the right one first: `a - b + c` becomes
`a - (b + c)`. None is begun once `maxRegroupings` have been counted, nor while
operands are being regrouped. The count is kept in one byte. A regrouping that
would take it further fails, and is not counted from zero again.

*Assignment.* The target of an assignment starts a frame of its own, in which
the rest of the statement is read. When the statement ends, the value of that
frame is stored and becomes an operand of the frame around it, whose statement
ends as well.

A pass is a value that maps every token to the pass after it (`Pass.feed`), so
what was read before and what is read after can be told apart.

## Main definitions

* `Entry`, `Stack.collapse`: The stack, and how it is worked off.
* `Expecting`: What the next token means.
* `Frame`, `Assignment`, `Pass`: A statement being read, and those around it.
* `Pass.feed`: Reading one token.
* `Pass.finish`: The end of the tokens.
* `Pass.run`: Reading all tokens.
-/

namespace Reckon

/-- One place of the stack. -/
inductive Entry where
  | value (v : Value)
  | op (o : Operator)
deriving Inhabited

/-- A stack, its top first. -/
abbrev Stack := List Entry

namespace Stack

/-- An operator with its left and its right operand at the top of a stack, and
    what is below them. The operator is on top of both right after it was read,
    and between them where it had to wait. -/
def triple? : Stack → Option (Operator × Value × Value × Stack)
  | .op o :: .value right :: .value left :: below => some (o, left, right, below)
  | .value right :: .op o :: .value left :: below => some (o, left, right, below)
  | _ => none

theorem length_triple?_lt {stack below : Stack} {o : Operator} {left right : Value}
    (h : triple? stack = some (o, left, right, below)) : below.length + 1 < stack.length := by
  unfold triple? at h
  split at h
  all_goals cases h
  all_goals simp only [List.length_cons]; omega

/-- What working off a stack comes to. -/
inductive Collapsed where
  /-- A stack on which nothing more can be applied. -/
  | settled (stack : Stack)
  /-- Operands of the wrong kinds, and what is below them. -/
  | stuck (op : Operator) (left right : Value) (below : Stack)
deriving Inhabited

/-- A stack worked off from the top, until one value is left or an operator
    cannot be applied yet. -/
def collapse (rounding : Rounding) (stack : Stack) : Except Cause Collapsed :=
  if stack.length ≤ 1 then .ok (.settled stack)
  else
    match _found : triple? stack with
    | none => .error (.illFormed .malformed)
    | some (o, left, right, below) =>
      match o.apply left right rounding with
      | .push v => collapse rounding (.value v :: below)
      -- What is further down the stack is dropped with the operands.
      | .replace v => .ok (.settled [.value v])
      | .defer left right => .ok (.settled (.value right :: .op o :: .value left :: below))
      | .cast left right => .ok (.stuck o left right below)
      | .fail cause => .error cause
termination_by stack.length
decreasing_by
  have := length_triple?_lt _found
  simp only [List.length_cons]
  omega

end Stack

/-- What the next token of a pass means. -/
inductive Expecting where
  /-- An operand where the statement has no value yet, an operator where it
      has one. -/
  | statement
  /-- The start of another statement, if there is one. -/
  | another
  /-- The right operand of an operator. -/
  | right (op : Operator)
  /-- An operator that takes the right one of two operands that do not fit. -/
  | regroup (op : Operator) (left right : Value)
  /-- The right operand of an operator that takes another one's right operand. -/
  | regroupRight (op : Operator) (left right : Value) (next : Operator)
  /-- The end of the statement. What comes before it is skipped. -/
  | statementEnd
  /-- The other branch. What comes before it is skipped, with `depth` branches
      inside it that are still open. -/
  | elseBranch (depth : Nat)
deriving Inhabited

/-- Where the value of an operand goes. -/
inductive Slot where
  /-- On an empty stack. -/
  | first
  /-- To the right of an operator. -/
  | right (op : Operator)
  /-- To the right of an operator that takes another one's right operand. -/
  | regrouped (op : Operator) (left right : Value) (next : Operator)
deriving Inhabited

/-- A statement being read. -/
structure Frame where
  stack : Stack := []
  /-- Whether an assignment in the statement has met its end. -/
  closed : Bool := false
  /-- Whether an operand has been read. -/
  seen : Bool := false
  /-- How often operands on this stack were regrouped. -/
  regrouped : Nat := 0
deriving Inhabited

/-- An assignment whose value is being read: its target, and where the value
    goes afterwards. -/
structure Assignment where
  target : String
  slot : Slot
  frame : Frame
deriving Inhabited

/-- Tokens read so far: the innermost frame, what it expects, the assignments
    around it from the inside out, and how often operands were regrouped. -/
structure Pass where
  frame : Frame := {}
  expecting : Expecting := .statement
  outer : List Assignment := []
  regroupings : Nat := 0
deriving Inhabited

/-- How often the operands of one pass may be regrouped. -/
def maxRegroupings : Nat := 1

/-- The largest number of regroupings that is counted, in one byte. -/
def countLimit : Nat := 0xFF

namespace Frame

/-- The value that a frame has come to, to be stored under a name. -/
def assigned (f : Frame) (target : String) : Except Cause Value :=
  match f.stack with
  | [.value v] => .ok v
  | _ :: _ :: _ => .error (.illFormed .incomplete)
  | _ => .error (.illFormed (.missingValue target))

/-- The value that a frame has come to, as the result of its pass. -/
def result (f : Frame) : Except Cause Value :=
  if !f.seen then .error .nothingToDo
  else
    match f.stack with
    | [.value v] => .ok v
    | _ :: _ :: _ => .error (.illFormed .incomplete)
    | _ => .ok .null

end Frame

namespace Pass

variable {α : Type}

/-- A pass before its first token. -/
def start : Pass := {}

/-- The pass with the stack of its innermost frame exchanged, between two
    tokens of a statement. -/
def withStack (p : Pass) (stack : Stack) : Pass :=
  { p with frame := { p.frame with stack := stack }, expecting := .statement }

/-- The pass after a stack of its innermost frame was worked off. Operands that
    do not fit wait for the next operator, unless that was tried before or is
    being tried. -/
def reduce (rounding : Rounding) (regrouping : Bool) (p : Pass) (stack : Stack) :
    Except Cause Pass :=
  match stack.collapse rounding with
  | .error cause => .error cause
  | .ok (.settled stack) => .ok (p.withStack stack)
  | .ok (.stuck op left right below) =>
    if regrouping || maxRegroupings ≤ p.regroupings then
      .error (.incompatible op left.kindName right.kindName)
    else .ok { p.withStack below with expecting := .regroup op left right }

/-- The pass after one more regrouping was counted. -/
def counted (p : Pass) : Pass :=
  { p with
    frame := { p.frame with regrouped := p.frame.regrouped + 1 }
    regroupings := p.regroupings + 1 }

/-- The pass after a value was put in its place in the innermost frame. -/
def place (rounding : Rounding) (p : Pass) (slot : Slot) (v : Value) : Except Cause Pass :=
  match slot with
  | .first =>
    let p := p.withStack (.value v :: p.frame.stack)
    .ok { p with frame := { p.frame with seen := true } }
  -- The operator stands above its right operand here, and below it when it waits.
  | .right op => p.reduce rounding false (.op op :: .value v :: p.frame.stack)
  | .regrouped op left right next =>
    -- The count overflows before anything on the stack is looked at.
    if countLimit ≤ p.regroupings then .error (.failure .overflow)
    else p.counted.reduce rounding true
      (.op next :: .value v :: .value right :: .op op :: .value left :: p.frame.stack)

/-- The pass after the statement of its innermost frame may have ended. If it
    has, the frame's value is stored and goes to the frame around it, whose
    statement has ended too. The outermost frame keeps its value until another
    statement starts. A frame that still waits for an operator is left as it
    is. -/
def settle (rounding : Rounding) (frame : Frame) (expecting : Expecting) (regroupings : Nat) :
    List Assignment → Eval Pass
  | [] =>
    match frame.closed, expecting with
    | true, .statement =>
      if 1 < frame.stack.length then Eval.fail (.illFormed .incomplete)
      else return ⟨{ frame with closed := false }, .another, [], regroupings⟩
    | _, _ => return ⟨frame, expecting, [], regroupings⟩
  | a :: outer =>
    match frame.closed, expecting with
    -- The value is stored before it goes to its place, where it may turn out not to fit.
    | true, .statement => do
      let v ← Eval.ofExcept (frame.assigned a.target)
      Eval.assign a.target v
      let p : Pass := ⟨{ a.frame with closed := true }, .statement, outer, regroupings⟩
      let p ← Eval.ofExcept (p.place rounding a.slot v)
      settle rounding p.frame p.expecting p.regroupings outer
    | _, _ => return ⟨frame, expecting, a :: outer, regroupings⟩

/-- The pass after the end of its innermost frame's statement was read. -/
def close (rounding : Rounding) (p : Pass) : Eval Pass :=
  settle rounding { p.frame with closed := true } .statement p.regroupings p.outer

/-- The pass after an operand was read. -/
def operand (rounding : Rounding) (p : Pass) (slot : Slot) (value : Eval Value) : Eval Pass := do
  let v ← value
  let p ← Eval.ofExcept (p.place rounding slot v)
  settle rounding p.frame p.expecting p.regroupings p.outer

/-- The pass after the target of an assignment was read. -/
def target (p : Pass) (slot : Slot) (name : String) : Pass :=
  ⟨{}, .statement, ⟨name, slot, p.frame⟩ :: p.outer, p.regroupings⟩

/-- The pass after an operator was read that follows the value `v`. -/
def operator (rounding : Rounding) (p : Pass) (op : Operator) (v : Value) (below : Stack) :
    Eval Pass :=
  match op with
  | .and | .or =>
    match v with
    | .bool b =>
      -- The left operand decides, and stays as the value of the statement.
      if b == (op == .or) then return { p with expecting := .statementEnd }
      else return p.withStack below
    | _ => return p.withStack below
  | .ternary =>
    match v with
    | .bool true => return p.withStack below
    | .bool false => return { p.withStack [] with expecting := .elseBranch 0 }
    | _ => Eval.fail (.mismatch (.ternaryCondition v.kindName))
  | .ternaryElse => return { p with expecting := .statementEnd }
  | .endOfStatement => p.close rounding
  | _ => return { p with expecting := .right op }

/-- The pass after a token of a statement. `shown` is how the token is shown,
    and `value` how an operand comes to its value. -/
def feedStatement (rounding : Rounding) (p : Pass) (kind : Token.Kind α) (shown : String)
    (value : Operand α → Eval Value) : Eval Pass :=
  match p.frame.stack, kind with
  | .value v :: below, .operator op => p.operator rounding op v below
  | .value _ :: _, _ => Eval.fail (.illFormed (.afterOperand shown))
  | _, .operator op =>
    -- An empty statement is passed over, but it can not be the value of an assignment.
    if op == .endOfStatement && p.outer.isEmpty then return p
    else Eval.fail (.illFormed (.missingBefore op))
  | _, .operand o => p.operand rounding .first (value o)
  | _, .assign name => return p.target .first name

/-- The pass after the token that follows an operator, which has to be an
    operand. -/
def feedRight (rounding : Rounding) (p : Pass) (after : Operator) (slot : Slot)
    (kind : Token.Kind α) (shown : String) (value : Operand α → Eval Value) : Eval Pass :=
  match kind with
  | .operator _ => Eval.fail (.illFormed (.afterOperator shown after))
  | .operand o => p.operand rounding slot (value o)
  | .assign name => return p.target slot name

/-- The pass after one more token. -/
def feed (rounding : Rounding) (p : Pass) (kind : Token.Kind α) (shown : String)
    (value : Operand α → Eval Value) : Eval Pass :=
  match p.expecting with
  | .statement => p.feedStatement rounding kind shown value
  -- Another statement starts here, so the value of the one before is dropped.
  | .another => (p.withStack []).feedStatement rounding kind shown value
  | .right op => p.feedRight rounding op (.right op) kind shown value
  | .regroup op left right =>
    match kind.operator? with
    | some next =>
      if next.isStructural then Eval.fail (.incompatible op left.kindName right.kindName)
      else return { p with expecting := .regroupRight op left right next }
    | none => Eval.fail (.incompatible op left.kindName right.kindName)
  | .regroupRight op left right next =>
    p.feedRight rounding next (.regrouped op left right next) kind shown value
  | .statementEnd =>
    match kind.operator? with
    | some .endOfStatement => p.close rounding
    | _ => return p
  | .elseBranch depth =>
    match kind.operator?, depth with
    | some .ternary, _ => return { p with expecting := .elseBranch (depth + 1) }
    | some .ternaryElse, 0 => return { p with expecting := .statement }
    | some .ternaryElse, depth + 1 => return { p with expecting := .elseBranch depth }
    | some .endOfStatement, _ => p.close rounding
    | _, _ => return p

/-- What is missing at the end of the tokens, if anything is. -/
def missing? : Expecting → Option Cause
  | .right op => some (.illFormed (.missingAfter op))
  | .regroup op left right => some (.incompatible op left.kindName right.kindName)
  | .regroupRight _ _ _ next => some (.illFormed (.missingAfter next))
  | _ => none

/-- The value of a pass at the end of its tokens. The assignments that are
    still being read end here, from the inside out. -/
def finish (rounding : Rounding) (frame : Frame) (expecting : Expecting) (regroupings : Nat) :
    List Assignment → Eval Value
  | [] =>
    match missing? expecting with
    | some cause => Eval.fail cause
    | none => Eval.ofExcept frame.result
  | a :: outer =>
    match missing? expecting with
    | some cause => Eval.fail cause
    | none => do
      let v ← Eval.ofExcept (frame.assigned a.target)
      Eval.assign a.target v
      -- Unlike at the end of a statement, the frame around is not closed but ends by itself.
      let p : Pass := ⟨{ a.frame with closed := false }, .statement, outer, regroupings⟩
      let p ← Eval.ofExcept (p.place rounding a.slot v)
      finish rounding p.frame p.expecting p.regroupings outer

/-- The pass when no token is left. Anything left over after the end of a
    statement takes the place of another statement, so that the value is
    dropped. -/
def atEnd (p : Pass) (leftover : Bool) : Pass :=
  match p.expecting with
  | .another => if leftover then p.withStack [] else p
  | _ => p

/-- The value of a pass when its reading ends. -/
def stop (rounding : Rounding) (p : Pass) : Reading.End → Eval Value
  | .fault fault => throw (Error.ofFault fault)
  | .finished leftover =>
    let p := p.atEnd leftover
    finish rounding p.frame p.expecting p.regroupings p.outer

/-- The value of a pass over the tokens to come of `source`. An error that has
    no place yet happened at the end of the token that was read last, and
    `cursor` is the end of the token before the first one. -/
def runFrom (nested : Nested α) (rounding : Rounding) (env : Env) (source : String)
    (ending : Reading.End) (cursor : Nat) (p : Pass) : List (Token α) → Eval Value
  | [] => (p.stop rounding ending).locate source cursor
  | t :: ts => do
    let shown := (t.map nested.text).text
    let p ← (p.feed rounding t.kind shown (t.value nested env source)).locate source t.span.stop
    runFrom nested rounding env source ending t.span.stop p ts

/-- The value of a pass over the tokens of `source`. -/
def run (nested : Nested α) (rounding : Rounding) (env : Env) (source : String)
    (reading : Reading α) : Eval Value :=
  runFrom nested rounding env source reading.ending 0 start reading.tokens

end Pass

end Reckon
