import Reckon.Value.Basic

/-!
# Coercions

How one kind of value is read as another. Operators do this, never literals: a
number written as text stays text until an arithmetic operator, an equality or
an ordering takes it as an operand.

`normalize` widens every number and every number text to a decimal, and
`narrow` goes back to a 64-bit integer wherever a decimal is whole and fits. A
result is narrowed once, at the end of the expression that produced it.

## Main definitions

* `Value.normalize`: Numbers and number texts as decimals.
* `Value.narrow`: A whole decimal as an integer.
* `Value.bits?`: The 32-bit word that bitwise operators see.
* `Value.isEmpty`, `Value.truth`: The empty values and the false ones.
* `TypeName.isInstance`, `TypeName.canConvert`: Tests against a type.
-/

namespace Reckon

namespace Value

/-- The value that arithmetic, equality and ordering see: numbers and number
    texts as decimals, everything else as it is. -/
def normalize : Value → Value
  | int n => decimal (Decimal.ofInt n.toInt)
  | str s =>
    match Decimal.ofNumberText? s.toList with
    | some d => decimal d
    | none => str s
  | v => v

/-- Whether an integer lies in the range of a 64-bit word. -/
def fitsWord (n : Int) : Bool :=
  Int64.minValue.toInt ≤ n && n ≤ Int64.maxValue.toInt

/-- A whole decimal in the range of a 64-bit word as an integer, everything
    else as it is. -/
def narrow : Value → Value
  | decimal d =>
    if d.isInteger && fitsWord d.truncate then int (Int64.ofInt d.truncate) else decimal d
  | v => v

/-- The widest integer that a bitwise operator reads: 128 bits with sign. -/
def fitsWide (n : Int) : Bool :=
  (BitVec.intMin 128).toInt ≤ n && n ≤ (BitVec.intMax 128).toInt

/-- The low 32 bits of an integer that a bitwise operator can read. -/
def wideBits? (n : Int) : Option (BitVec 32) :=
  if fitsWide n then some (BitVec.ofInt 32 n) else none

/-- The 32-bit word that bitwise operators see: a number or number text,
    truncated toward zero and then cut to its low 32 bits. -/
def bits? : Value → Option (BitVec 32)
  | int n => some (BitVec.ofInt 32 n.toInt)
  | decimal d => wideBits? d.truncate
  | str s => (Decimal.ofNumberText? s.toList).bind fun d => wideBits? d.truncate
  | _ => none

/-- A 32-bit word as a value, read with its sign. -/
def ofBits (w : BitVec 32) : Value := int (Int64.ofInt w.toInt)

/-- The empty values: null, the empty text, and empty collections. -/
def isEmpty : Value → Bool
  | null => true
  | str s => s.isEmpty
  | list items => items.isEmpty
  | map entries => entries.isEmpty
  | _ => false

/-- The boolean that a value stands for where one is asked for. Zero and the
    empty values are false. -/
def truth : Value → Bool
  | bool b => b
  | int n => n != 0
  | decimal d => !d.isZero
  | type _ => true
  | v => !v.isEmpty

end Value

namespace TypeName

/-- Whether a value is of a type. Null is of none. -/
def isInstance : TypeName → Value → Bool
  | string, .str _ => true
  | boolean, .bool _ => true
  | integer, .int _ => true
  | decimal, .decimal _ => true
  | number, .int _ => true
  | number, .decimal _ => true
  | list, .list _ => true
  | map, .map _ => true
  | _, _ => false

/-- Whether a text is one of the two boolean names, in letters of either case. -/
def isBooleanText (s : String) : Bool :=
  let name := String.ofList (s.toList.map Char.toLower)
  name == "true" || name == "false"

/-- Whether a value that is not of a type has a counterpart in it. Everything
    but null has a text; the boolean and number types take each other's
    spelling and every number. -/
def admits : TypeName → Value → Bool
  | _, .null => false
  | string, _ => true
  | boolean, .str s => isBooleanText s
  | boolean, .int _ | boolean, .decimal _ => true
  | integer, v | decimal, v | number, v =>
    match v with
    | .str s => Decimal.isNumberText s.toList
    | .int _ | .decimal _ => true
    | _ => false
  | _, _ => false

/-- Whether a value can be converted to a type. -/
def canConvert (t : TypeName) (v : Value) : Bool :=
  t.isInstance v || t.admits v

end TypeName

end Reckon
