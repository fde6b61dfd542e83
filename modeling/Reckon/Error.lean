import Reckon.Property
import Reckon.Token.Basic

/-!
# Evaluation Errors

An error has a cause and a place. Causes fall into six kinds, which fall into
three categories; the wording of each cause is in one function.

The place is a text and a byte offset in it. The pass that first sees an error
places it (`located`); where that pass ran on a text inside another, the error
is then moved outward (`lifted`), which leaves the text open for the enclosing
pass to fill in. Placing never overrides a place that is already known.

## Main definitions

* `Cause`: Why an evaluation failed.
* `Cause.message`: The wording of a cause.
* `Error`: A cause with its place.
* `Error.located`, `Error.lifted`: Placing an error and moving it outward.
-/

namespace Reckon

/-- What is wrong with how an expression is written. -/
inductive Problem where
  /-- The text has no token where one is needed. -/
  | fault (fault : Token.Fault)
  /-- A statement ends before it has come down to one value. -/
  | incomplete
  /-- Values and operators do not alternate. -/
  | malformed
  /-- An operand follows an operand. -/
  | afterOperand (token : String)
  /-- An operator comes first. -/
  | missingBefore (op : Operator)
  /-- An operator comes last. -/
  | missingAfter (op : Operator)
  /-- An operator follows an operator. -/
  | afterOperator (token : String) (op : Operator)
  /-- An assignment has nothing to assign. -/
  | missingValue (target : String)
  /-- A structural operator is asked to combine operands. -/
  | betweenOperands (op : Operator)
  /-- A loop header does not have three parts. -/
  | headerParts (count : Nat)
  /-- A loop header has no condition. -/
  | headerCondition
  /-- A problem in words of its own. -/
  | note (text : String)
deriving DecidableEq, Repr

namespace Problem

/-- The wording of a problem. -/
def message : Problem → String
  | fault f => f.message
  | incomplete => "incomplete expression"
  | malformed => "malformed expression"
  | afterOperand token => "unexpected `" ++ token ++ "` after a complete operand"
  | missingBefore op => "missing operand before `" ++ op.symbol ++ "`"
  | missingAfter op => "missing operand after `" ++ op.symbol ++ "`"
  | afterOperator token op => "unexpected `" ++ token ++ "` after `" ++ op.symbol ++ "`"
  | missingValue target => "missing value for assignment to `" ++ target ++ "`"
  | betweenOperands op => "unexpected `" ++ op.symbol ++ "` between operands"
  | headerParts count =>
    "`for` header needs `init; condition; after`, found " ++ toString count ++ " part(s)"
  | headerCondition => "`for` header is missing its condition"
  | note text => text

end Problem

/-- A value of the wrong kind. `found` is what the value is called. -/
inductive Mismatch where
  | ternaryCondition (found : String)
  | loopCondition (found : String)
  | negation (found : String)
  | typeOperand (found : String)
  | projection
  /-- A mismatch in words of its own. -/
  | note (text : String)
deriving DecidableEq, Repr

namespace Mismatch

/-- The wording of a mismatch. -/
def message : Mismatch → String
  | ternaryCondition found => "ternary condition must be a boolean, found " ++ found
  | loopCondition found => "loop condition must be a boolean, found " ++ found
  | negation found => "`!` applies to booleans, found " ++ found
  | typeOperand found => "expected a type, found " ++ found
  | projection => "projections can only be performed on collections"
  | note text => text

end Mismatch

/-- What went wrong while a value was computed. -/
inductive Failure where
  | divisionByZero
  | exponentRange
  | unknownType (name : String)
  /-- A text that is no pattern. The explanation that the reader of patterns may give is
      no part of this, and the message ends before it. -/
  | invalidPattern (pattern : String)
  /-- A count went past the largest one that its width can hold. -/
  | overflow
  | property (error : Property.Error)
  /-- A failure in words of its own. -/
  | note (text : String)
deriving DecidableEq, Repr

namespace Failure

/-- The wording of a failure. -/
def message : Failure → String
  | divisionByZero => "division by zero"
  | exponentRange => "decimal exponent out of range"
  | unknownType name => "unknown type `" ++ name ++ "`"
  | invalidPattern pattern => "invalid pattern `" ++ pattern ++ "`"
  | overflow => "attempt to add with overflow"
  | property error => error.message
  | note text => text

end Failure

/-- Why an evaluation failed. -/
inductive Cause where
  /-- The expression has no tokens. -/
  | nothingToDo
  | illFormed (problem : Problem)
  /-- An operator does not apply to operands of these kinds. -/
  | incompatible (op : Operator) (left right : String)
  | mismatch (mismatch : Mismatch)
  | unresolved (name : String)
  | failure (failure : Failure)
deriving DecidableEq, Repr

/-- The three ways in which a failure can be reported. -/
inductive Category where
  /-- The expression is not well formed. -/
  | compile
  /-- A value has the wrong kind. -/
  | type
  /-- Anything else. -/
  | evaluation
deriving DecidableEq, Repr

namespace Cause

/-- The category of a cause. -/
def category : Cause → Category
  | nothingToDo => .compile
  | illFormed _ => .compile
  | incompatible _ _ _ => .compile
  | mismatch _ => .type
  | unresolved _ => .evaluation
  | failure _ => .evaluation

/-- The wording of a cause. -/
def message : Cause → String
  | nothingToDo => "nothing to do"
  | illFormed problem => "syntax error: " ++ problem.message
  | incompatible op left right =>
    "syntax error or incompatible types: cannot apply `" ++ op.symbol ++ "` to " ++ left ++
      " and " ++ right
  | mismatch m => "type error: " ++ m.message
  | unresolved name => "unresolvable identifier `" ++ name ++ "`"
  | failure f => "failed to evaluate expression: " ++ f.message

end Cause

/-- An evaluation error: its cause, and as much of its place as is known. -/
structure Error where
  cause : Cause
  /-- The text that the offset counts in. -/
  expr : Option String := none
  /-- The offset in bytes. -/
  cursor : Option Nat := none
deriving DecidableEq, Repr

namespace Error

/-- An error without a place. -/
def of (cause : Cause) : Error := ⟨cause, none, none⟩

/-- The error of a text that does not read. It is placed at the fault, in a text
    still to be named. -/
def ofFault (fault : Token.Fault) : Error :=
  ⟨.illFormed (.fault fault), none, some fault.pos⟩

/-- The error of a property path that leads nowhere. -/
def ofProperty (error : Property.Error) : Error :=
  of (.failure (.property error))

/-- The error placed at an offset of a text. What is already known of its place
    stays. -/
def located (e : Error) (expr : String) (cursor : Nat) : Error :=
  { e with expr := some (e.expr.getD expr), cursor := some (e.cursor.getD cursor) }

/-- The error moved outward, from a text that starts at byte `offset` of
    another. The outer text is left open. -/
def lifted (e : Error) (offset : Nat) : Error :=
  { e with expr := none, cursor := some (e.cursor.getD 0 + offset) }

/-- An error with its place, as far as it is known. -/
def text (e : Error) : String :=
  e.cause.message ++
    match e.expr, e.cursor with
    | some expr, some cursor => " [expr: `" ++ expr ++ "`, offset " ++ toString cursor ++ "]"
    | none, some cursor => " [offset " ++ toString cursor ++ "]"
    | _, none => ""

end Error

end Reckon
