import Reckon.Decimal.Notation

/-!
# Values

What an expression produces. Integers are 64-bit words, which is the range that
a literal keeps and that a whole decimal is narrowed to; arithmetic itself is
done on decimals. A map lists its entries in the order of their keys, each key
once, so that two maps with the same entries are the same list.

Equality of values looks through representation only where numbers meet: an
integer equals a decimal that denotes it, and decimals are compared as numbers,
at any depth of lists and maps. A text never equals a number here; the operators
`==` and `!=` turn number texts into decimals first.

## Main definitions

* `TypeName`: The types a program can name.
* `Value`: Values.
* `Value.same`: Equality of values.
* `Value.text`: The text of a value.
* `Value.ofEntries`: A map from entries in any order.
-/

namespace Reckon

/-- A type that a program can name. -/
inductive TypeName where
  | string
  | boolean
  | integer
  | decimal
  | number
  | list
  | map
deriving DecidableEq, Repr, Inhabited

namespace TypeName

/-- The name of a type. -/
def name : TypeName → String
  | string => "String"
  | boolean => "Boolean"
  | integer => "Integer"
  | decimal => "Decimal"
  | number => "Number"
  | list => "List"
  | map => "Map"

/-- The type with a given name. Two types have a second name. -/
def ofName? : String → Option TypeName
  | "String" => some string
  | "Boolean" => some boolean
  | "Integer" | "Long" => some integer
  | "Decimal" | "BigDecimal" => some decimal
  | "Number" => some number
  | "List" => some list
  | "Map" => some map
  | _ => none

end TypeName

/-- A value. -/
inductive Value where
  | null
  | bool (b : Bool)
  | int (n : Int64)
  | decimal (d : Decimal)
  | str (s : String)
  | list (items : List Value)
  | map (entries : List (String × Value))
  | type (t : TypeName)
deriving Inhabited

namespace Value

/-- What a value is called in error texts. -/
def kindName : Value → String
  | null => "null"
  | bool _ => "boolean"
  | int _ => "integer"
  | decimal _ => "decimal"
  | str _ => "string"
  | list _ => "list"
  | map _ => "map"
  | type _ => "type"

mutual

/-- Equality of values. Numbers are equal when they denote the same number. -/
def same : Value → Value → Bool
  | null, null => true
  | bool a, bool b => a == b
  | int a, int b => a == b
  | decimal a, decimal b => a.same b
  | int a, decimal b => (Decimal.ofInt a.toInt).same b
  | decimal a, int b => a.same (Decimal.ofInt b.toInt)
  | str a, str b => a == b
  | list as, list bs => sameItems as bs
  | map as, map bs => sameEntries as bs
  | type a, type b => a == b
  | _, _ => false

/-- Equality of lists, item by item. -/
def sameItems : List Value → List Value → Bool
  | [], [] => true
  | a :: as, b :: bs => same a b && sameItems as bs
  | _, _ => false

/-- Equality of the entries of maps, key by key. -/
def sameEntries : List (String × Value) → List (String × Value) → Bool
  | [], [] => true
  | (j, a) :: as, (k, b) :: bs => j == k && same a b && sameEntries as bs
  | _, _ => false

end

mutual

/-- The text of a value. Texts stand for themselves at any depth, without
    quotes. -/
def text : Value → String
  | null => "null"
  | bool b => if b then "true" else "false"
  | int n => (Decimal.ofInt n.toInt).text
  | decimal d => d.text
  | str s => s
  | list items => "[" ++ ", ".intercalate (itemTexts items) ++ "]"
  | map entries => "\x7b" ++ ", ".intercalate (entryTexts entries) ++ "\x7d"
  | type t => t.name

/-- The texts of the items of a list. -/
def itemTexts : List Value → List String
  | [] => []
  | v :: vs => text v :: itemTexts vs

/-- The texts of the entries of a map, each with its key. -/
def entryTexts : List (String × Value) → List String
  | [] => []
  | (k, v) :: es => (k ++ "=" ++ text v) :: entryTexts es

end

/-- Entries in key order with one more. An entry of the same key is replaced. -/
def insertEntry (key : String) (value : Value) :
    List (String × Value) → List (String × Value)
  | [] => [(key, value)]
  | (k, v) :: es =>
    if key < k then (key, value) :: (k, v) :: es
    else if key = k then (key, value) :: es
    else (k, v) :: insertEntry key value es

/-- The map with the given entries, of which a later one replaces an earlier
    one of the same key. -/
def ofEntries (entries : List (String × Value)) : Value :=
  map (entries.foldl (fun es entry => insertEntry entry.1 entry.2 es) [])

/-- The value under a key. -/
def entry? (entries : List (String × Value)) (key : String) : Option Value :=
  entries.lookup key

/-- A count as a value. -/
def ofCount (n : Nat) : Value :=
  int (Int64.ofInt (min n Int64.maxValue.toInt))

end Value

end Reckon
