import Reckon.Decimal.Rounding
import Reckon.Error
import Reckon.Match.Similarity
import Reckon.Match.Soundex
import Reckon.Pattern.Notation
import Reckon.Pattern.Search
import Reckon.Text.Offset
import Reckon.Value.Coercion

/-!
# Operations

What each operator makes of two operands. Arithmetic, equality and ordering see
numbers and number texts as decimals; every other operator sees its operands as
they are.

Most operations either yield a value or do not apply. Three outcomes are
special. The first non-empty operand ends the statement so far (`replace`). A
junction whose right side is not yet a boolean waits for what follows
(`defer`). Operands of the wrong kind are handed back (`cast`), since a
following operator may still make the right one fit; arithmetic and ordering
hand them back as the decimals they were turned into.

## Main definitions

* `Outcome`: What an operation comes to.
* `Operator.apply`: The operation of every operator.
-/

namespace Reckon

/-- What an operation comes to. -/
inductive Outcome where
  /-- A value takes the place of the operands. -/
  | push (value : Value)
  /-- A value takes the place of everything on the stack. -/
  | replace (value : Value)
  /-- The operands cannot be combined yet. -/
  | defer (left right : Value)
  /-- The operands have the wrong kinds. -/
  | cast (left right : Value)
  /-- The operation fails, whatever follows. -/
  | fail (cause : Cause)
deriving Inhabited

namespace Operation

/-- The sum of two decimals. Of other operands, the texts of what arithmetic
    sees in them, joined. -/
def add (left right : Value) : Outcome :=
  match left.normalize, right.normalize with
  | .decimal a, .decimal b => .push (.decimal (a.add b))
  | l, r => .push (.str (l.text ++ r.text))

/-- An operation on what arithmetic sees in two operands, which have to be
    numbers. -/
def onDecimals (operate : Decimal → Decimal → Outcome) (left right : Value) : Outcome :=
  match left.normalize, right.normalize with
  | .decimal a, .decimal b => operate a b
  | l, r => .cast l r

/-- The outcome of a division. -/
def divide (rounding : Rounding) (a b : Decimal) : Outcome :=
  if b.isZero then .fail (.failure .divisionByZero)
  else
    match a.divide b rounding with
    | some quotient => .push (.decimal quotient)
    | none => .fail (.failure .exponentRange)

/-- The outcome of taking a remainder. -/
def remainder (a b : Decimal) : Outcome :=
  if b.isZero then .fail (.failure .divisionByZero) else .push (.decimal (a.rem b))

/-- Whether two operands are equal as `==` sees them. -/
def equal (left right : Value) : Bool :=
  left.normalize.same right.normalize

/-- The outcome of a comparison that holds for some orders. -/
def ordering (holds : Ordering → Bool) : Value → Value → Outcome :=
  onDecimals fun a b => .push (.bool (holds (a.compare b)))

/-- Both of two booleans. A right side that is no boolean has to wait where the
    left one does not settle the matter. -/
def conjoin (left right : Value) : Outcome :=
  match left, right with
  | .bool a, .bool b => .push (.bool (a && b))
  -- A false left side settles it, whatever stands on the right.
  | .bool true, _ => .defer left right
  | .bool false, _ => .push (.bool false)
  | _, _ => .cast left right

/-- Either of two booleans. Any other operands have to wait. -/
def disjoin (left right : Value) : Outcome :=
  match left, right with
  | .bool a, .bool b => .push (.bool (a || b))
  -- Even a true left side waits for a boolean.
  | _, _ => .defer left right

/-- The first of two operands that is not empty; null where both are. -/
def coalesce (left right : Value) : Outcome :=
  -- Both of them clear the stack, unlike null.
  if !left.isEmpty then .replace left
  else if !right.isEmpty then .replace right
  else .push .null

/-- Whether a text matches a pattern from its start to its end. The pattern is
    set between the two anchors as it is written. -/
def matchPattern (left right : Value) : Outcome :=
  match Pattern.ofNotation? ("^(?:" ++ right.text ++ ")$").toList with
  | some pattern => .push (.bool (pattern.occursIn left.text.toList))
  | none => .fail (.failure (.invalidPattern right.text))

/-- An operation whose right operand is a type or the name of one. -/
def onType (holds : TypeName → Bool) (right : Value) : Outcome :=
  match right with
  | .type t => .push (.bool (holds t))
  | .str name =>
    match TypeName.ofName? name with
    | some t => .push (.bool (holds t))
    | none => .fail (.failure (.unknownType name))
  | v => .fail (.mismatch (.typeOperand v.kindName))

/-- Whether a text, a list or the keys of a map hold a value. -/
def contains (holder candidate : Value) : Bool :=
  match holder with
  | .str s => Text.occurs candidate.text.toList s.toList
  | .list items => items.any fun item => item.same candidate
  | .map entries => (Value.entry? entries candidate.text).isSome
  | _ => false

/-- An operation on two 32-bit words. -/
def onBits (operate : BitVec 32 → BitVec 32 → BitVec 32) (left right : Value) : Outcome :=
  match left.bits?, right.bits? with
  | some a, some b => .push (.ofBits (operate a b))
  | _, _ => .cast left right

/-- The distance of a shift: the low five bits of a word. -/
def distance (w : BitVec 32) : Nat := w.toNat % 32

/-- How much of the shorter of two texts is found in the longer one. -/
def resemble (left right : Value) : Outcome :=
  match Similarity.score? right.text.toList left.text.toList with
  | some score => .push (.decimal score)
  | none => .fail (.failure .overflow)

/-- A property of every item of a list. -/
def project (path list : Value) : Outcome :=
  match list with
  | .list items =>
    match items.mapM (Property.get path.text) with
    | .ok values => .push (.list values)
    | .error error => .fail (.failure (.property error))
  | _ => .fail (.mismatch .projection)

end Operation

open Operation in
/-- The operation of an operator on its left and its right operand. -/
def Operator.apply (op : Operator) (left right : Value) (rounding : Rounding) : Outcome :=
  match op with
  | add => Operation.add left right
  | sub => onDecimals (fun a b => .push (.decimal (a.sub b))) left right
  | mul => onDecimals (fun a b => .push (.decimal (a.mul b))) left right
  | div => onDecimals (divide rounding) left right
  | mod => onDecimals remainder left right
  | eq => .push (.bool (equal left right))
  | notEq => .push (.bool (!equal left right))
  | gt => ordering (· == .gt) left right
  | lt => ordering (· == .lt) left right
  | gtEq => ordering (· != .lt) left right
  | ltEq => ordering (· != .gt) left right
  | and => conjoin left right
  | or => disjoin left right
  | coalesce => Operation.coalesce left right
  | regex => matchPattern left right
  | instanceOf => onType (fun t => t.isInstance left) right
  | convertibleTo => onType (fun t => t.canConvert left) right
  | contains => .push (.bool (Operation.contains left right))
  | soundex =>
    .push (.bool (Soundex.code right.text.toList == Soundex.code left.text.toList))
  | similarity => resemble left right
  | bitAnd => onBits (· &&& ·) left right
  | bitOr => onBits (· ||| ·) left right
  | bitXor => onBits (· ^^^ ·) left right
  | shl => onBits (fun a b => a <<< distance b) left right
  | ushl => onBits (fun a b => a.abs <<< distance b) left right
  | shr => onBits (fun a b => a.sshiftRight (distance b)) left right
  | ushr => onBits (fun a b => a >>> distance b) left right
  | strAppend => .push (.str (left.text ++ right.text))
  | projection => project left right
  | ternary | ternaryElse | endOfStatement => .fail (.illFormed (.betweenOperands op))

end Reckon
