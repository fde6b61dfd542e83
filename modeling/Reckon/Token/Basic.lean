import Reckon.Operator
import Reckon.Span
import Reckon.Value.Basic

/-!
# Tokens

A token is an operator, an operand, or the target of an assignment. Two of the
operands hold expressions of their own: a group, and a list with one expression
for each element. What such an expression is depends on who holds the token:
its text when the token has just been read, a program once it has been
compiled. `Token α` therefore leaves it open, and `Token.map` exchanges it.

A `!` in front of an operand is part of the token.

## Main definitions

* `Operand`: What a token can contribute as a value.
* `Token.Kind`: What a token is.
* `Token`: A kind, where it stands, and whether it is negated.
* `Token.nested`: The expressions a token holds.
* `Token.map`: The same token over other expressions.
* `Token.text`: How a token is shown.
* `Token.Fault`: Why a text has no further token.
-/

namespace Reckon

/-- What a token can contribute as a value. -/
inductive Operand (α : Type) where
  /-- A constant with its value. -/
  | literal (value : Value)
  /-- A dotted path, whose first name is that of a variable. -/
  | identifier (path : String)
  /-- The value that an expression is evaluated for. -/
  | self
  /-- An expression in parentheses. -/
  | group (inner : α)
  /-- A list with an expression for each element. -/
  | list (elements : List α)
deriving Inhabited

namespace Operand

variable {α β : Type}

/-- The expressions that an operand holds, in order. -/
def nested : Operand α → List α
  | group inner => [inner]
  | list elements => elements
  | _ => []

/-- The same operand over other expressions. -/
def map (f : α → β) : Operand α → Operand β
  | literal value => literal value
  | identifier path => identifier path
  | self => self
  | group inner => group (f inner)
  | list elements => list (elements.map f)

/-- The same operand, each of whose expressions comes with a fact about it. -/
def attach {P : α → Prop} : (o : Operand α) → (∀ a ∈ o.nested, P a) → Operand { a // P a }
  | literal value, _ => literal value
  | identifier path, _ => identifier path
  | self, _ => self
  | group inner, h => group ⟨inner, h inner (by simp [nested])⟩
  | list elements, h => list (elements.attachWith P h)

/-- How an operand is shown. Texts stand between single quotes, without
    escapes. -/
def text : Operand String → String
  | literal (.str s) => "'" ++ s ++ "'"
  | literal value => value.text
  | identifier path => path
  | self => "this"
  | group inner => "(" ++ inner ++ ")"
  | list elements => "[" ++ ", ".intercalate elements ++ "]"

end Operand

/-- What a token is. -/
inductive Token.Kind (α : Type) where
  | operator (op : Operator)
  | operand (o : Operand α)
  /-- The target of an assignment, with its equals sign. -/
  | assign (target : String)
deriving Inhabited

/-- A token, with the bytes it covers. -/
structure Token (α : Type) where
  kind : Token.Kind α
  span : Span
  /-- Whether a `!` in front of the operand inverts it. -/
  negated : Bool := false
deriving Inhabited

namespace Token

variable {α β : Type}

namespace Kind

/-- The expressions that a token of this kind holds, in order. -/
def nested : Kind α → List α
  | operand o => o.nested
  | _ => []

/-- The same kind over other expressions. -/
def map (f : α → β) : Kind α → Kind β
  | operator op => operator op
  | operand o => operand (o.map f)
  | assign target => assign target

/-- The same kind, each of whose expressions comes with a fact about it. -/
def attach {P : α → Prop} : (kind : Kind α) → (∀ a ∈ kind.nested, P a) → Kind { a // P a }
  | operator op, _ => operator op
  | operand o, h => operand (o.attach h)
  | assign target, _ => assign target

/-- The operator that a token of this kind is, if it is one. -/
def operator? : Kind α → Option Operator
  | operator op => some op
  | _ => none

/-- Whether an operand has to follow a token of this kind. -/
def wantsOperand : Kind α → Bool
  | operand _ => false
  | _ => true

/-- How a token of this kind is shown. -/
def text : Kind String → String
  | operator op => op.symbol
  | operand o => o.text
  | assign target => target ++ " ="

end Kind

/-- The expressions that a token holds, in order. -/
def nested (t : Token α) : List α := t.kind.nested

/-- The same token over other expressions. -/
def map (f : α → β) (t : Token α) : Token β :=
  ⟨t.kind.map f, t.span, t.negated⟩

/-- The same token, each of whose expressions comes with a fact about it. -/
def attach {P : α → Prop} (t : Token α) (h : ∀ a ∈ t.nested, P a) : Token { a // P a } :=
  ⟨t.kind.attach h, t.span, t.negated⟩

/-- The operator that a token is, if it is one. -/
def operator? (t : Token α) : Option Operator := t.kind.operator?

/-- The token with its negation inverted. -/
def negate (t : Token α) : Token α := { t with negated := !t.negated }

/-- How a token is shown. -/
def text (t : Token String) : String :=
  if t.negated then "!" ++ t.kind.text else t.kind.text

/-- Why a text has no further token. Offsets are in bytes. -/
inductive Fault where
  /-- No token starts with a character. -/
  | unexpectedChar (pos : Nat) (text : String)
  /-- A quoted text does not end. -/
  | unterminatedString (pos : Nat)
  /-- A bracket is not closed. -/
  | unclosed (bracket : Char) (pos : Nat)
  /-- A token stands where it has no meaning. -/
  | unexpected (pos : Nat) (text : String)
  /-- An offset is larger than a span can hold. -/
  | tooLarge (pos : Nat)
deriving DecidableEq, Repr

namespace Fault

/-- Where a fault is. -/
def pos : Fault → Nat
  | unexpectedChar pos _ => pos
  | unterminatedString pos => pos
  | unclosed _ pos => pos
  | unexpected pos _ => pos
  | tooLarge pos => pos

/-- The wording of a fault. -/
def message : Fault → String
  | unexpectedChar pos text => "unexpected character `" ++ text ++ "` at " ++ toString pos
  | unterminatedString pos => "unterminated string literal starting at " ++ toString pos
  | unclosed bracket pos => "unclosed `" ++ bracket.toString ++ "` opened at " ++ toString pos
  | unexpected pos text => "unexpected `" ++ text ++ "` at " ++ toString pos
  | tooLarge pos =>
    "expression too large: offset " ++ toString pos ++ " exceeds the span range"

end Fault

end Token

end Reckon
