/-!
# Operators

Thirty-two operators. All but three combine two operands; the three structural
ones (`?`, `:` and `;`) only say where a branch or a statement ends. Seven are
written as words, and a word is an operator only where it stands as a name of
its own.

No operator binds tighter than another: operands are combined from left to
right.

## Main definitions

* `Operator`: The operators.
* `Operator.symbol`: How an operator is written.
* `Operator.ofSymbol?`: The operator written a given way.
* `Operator.isKeyword`, `Operator.isStructural`: The words and the marks.
-/

namespace Reckon

/-- An operator. -/
inductive Operator where
  | add
  | sub
  | mul
  | div
  | mod
  | eq
  | notEq
  | gt
  | lt
  | gtEq
  | ltEq
  | and
  | or
  /-- The first operand that is not empty. -/
  | coalesce
  /-- Whether a text matches a pattern. -/
  | regex
  | instanceOf
  | convertibleTo
  | contains
  /-- Whether two texts sound alike. -/
  | soundex
  /-- How similar two texts are. -/
  | similarity
  | bitAnd
  | bitOr
  | bitXor
  | shl
  /-- A shift to the left of the magnitude. -/
  | ushl
  | shr
  /-- A shift to the right that fills with zeros. -/
  | ushr
  /-- Two texts joined. -/
  | strAppend
  /-- A property of every item of a list. -/
  | projection
  | ternary
  | ternaryElse
  | endOfStatement
deriving DecidableEq, Repr, Inhabited

namespace Operator

/-- How an operator is written. -/
def symbol : Operator → String
  | add => "+"
  | sub => "-"
  | mul => "*"
  | div => "/"
  | mod => "%"
  | eq => "=="
  | notEq => "!="
  | gt => ">"
  | lt => "<"
  | gtEq => ">="
  | ltEq => "<="
  | and => "&&"
  | or => "||"
  | coalesce => "or"
  | regex => "~="
  | instanceOf => "instanceof"
  | convertibleTo => "convertable_to"
  | contains => "contains"
  | soundex => "soundslike"
  | similarity => "strsim"
  | bitAnd => "&"
  | bitOr => "|"
  | bitXor => "^"
  | shl => "<<"
  | ushl => "<<<"
  | shr => ">>"
  | ushr => ">>>"
  | strAppend => "#"
  | projection => "in"
  | ternary => "?"
  | ternaryElse => ":"
  | endOfStatement => ";"

/-- The operator written a given way. Membership in a type has the second
    spelling `is`. -/
def ofSymbol? : String → Option Operator
  | "+" => some add
  | "-" => some sub
  | "*" => some mul
  | "/" => some div
  | "%" => some mod
  | "==" => some eq
  | "!=" => some notEq
  | ">" => some gt
  | "<" => some lt
  | ">=" => some gtEq
  | "<=" => some ltEq
  | "&&" => some and
  | "||" => some or
  | "or" => some coalesce
  | "~=" => some regex
  | "instanceof" | "is" => some instanceOf
  | "convertable_to" => some convertibleTo
  | "contains" => some contains
  | "soundslike" => some soundex
  | "strsim" => some similarity
  | "&" => some bitAnd
  | "|" => some bitOr
  | "^" => some bitXor
  | "<<" => some shl
  | "<<<" => some ushl
  | ">>" => some shr
  | ">>>" => some ushr
  | "#" => some strAppend
  | "in" => some projection
  | "?" => some ternary
  | ":" => some ternaryElse
  | ";" => some endOfStatement
  | _ => none

/-- Whether an operator is written as a word. -/
def isKeyword (op : Operator) : Bool :=
  match op.symbol.toList with
  | c :: _ => c.isAlpha
  | [] => false

/-- Whether an operator only marks where a branch or a statement ends. -/
def isStructural : Operator → Bool
  | ternary | ternaryElse | endOfStatement => true
  | _ => false

/-- The operator that a word stands for, if it is one. -/
def ofKeyword? (word : String) : Option Operator :=
  (ofSymbol? word).filter isKeyword

end Operator

end Reckon
