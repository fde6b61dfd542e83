import Reckon.Eval
import Reckon.Token.Basic

/-!
# The Value of an Operand

How an operand comes to its value, given a way to evaluate the expressions it
may hold. A group and the elements of a list are evaluated where they stand, so
an error inside one is moved outward by the offset of its text. That offset is
found by searching: a group from just past its bracket, an element from the end
of the one before it.

## Main definitions

* `Nested`: What can be done with the expressions that tokens hold.
* `Operand.value`: The value of an operand.
* `Token.value`: The value of an operand with its negation.
-/

namespace Reckon

/-- What can be done with the expressions that tokens hold: they have a text,
    and they can be evaluated. -/
structure Nested (α : Type) where
  text : α → String
  eval : α → Eval Value

namespace Operand

variable {α : Type}

/-- The values of the elements of a list, of which the first is looked for in
    the text of the list from byte `start` on. -/
def elementValues (nested : Nested α) (source : String) : Nat → List α → Eval (List Value)
  | _, [] => return []
  | start, element :: elements => do
    let text := nested.text element
    let offset := Text.offsetOf source.toList start text.toList
    let value ← (nested.eval element).lift offset
    let values ← elementValues nested source (offset + text.utf8ByteSize) elements
    return value :: values

/-- The value of an operand that stands in `source`, where what is inside its
    bracket, if it has one, starts at byte `inside`. -/
def value (nested : Nested α) (env : Env) (source : String) (inside : Nat) :
    Operand α → Eval Value
  | literal value => return value
  | identifier path => env.resolve path
  | self => return env.self
  | group inner =>
    (nested.eval inner).lift (Text.offsetOf source.toList inside (nested.text inner).toList)
  | list elements => return .list (← elementValues nested source inside elements)

/-- The inverse of a value, which has to be a boolean. -/
def inverse : Value → Eval Value
  | .bool b => return .bool !b
  | v => Eval.fail (.mismatch (.negation v.kindName))

end Operand

/-- The value of an operand of a token in `source`, inverted if the token is
    negated. -/
def Token.value {α : Type} (nested : Nested α) (env : Env) (source : String) (t : Token α)
    (o : Operand α) : Eval Value := do
  let value ← o.value nested env source (t.span.start + 1)
  if t.negated then Operand.inverse value else return value

end Reckon
