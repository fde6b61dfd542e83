import Reckon.Text.AlphabeticChar
import Reckon.Text.Blank
import Reckon.Text.Category
import Reckon.Text.Script

/-!
# Properties of Characters

The properties that a pattern can ask for by name: the general categories and
their groups, the scripts, and a few others.

Names are compared loosely. Case makes no difference, spaces, hyphens and low
lines are dropped, and so is the word `is` in front.

## Main definitions

* `Text.CharProperty`: The properties.
* `Text.CharProperty.holds`: Whether a character has a property.
* `Text.CharProperty.points`: The characters that have it.
* `Text.looseName`: The form of a name that is compared.
* `Text.CharProperty.ofName?`, `Text.CharProperty.ofValue?`: The property of a
  name.
-/

namespace Reckon

namespace Text

/-- A property of characters. -/
inductive CharProperty where
  | any
  | ascii
  /-- The code point has a character. -/
  | assigned
  | category (categories : List Category)
  | script (name : String)
  | alphabetic
  | lowercase
  | uppercase
  | whiteSpace
deriving DecidableEq, Repr, Inhabited

/-- The small characters that are no small letters. -/
def otherLowercase : RangeSet :=
  [(0xAA, 0xAA), (0xBA, 0xBA), (0x2B0, 0x2B8), (0x2C0, 0x2C1), (0x2E0, 0x2E4), (0x345, 0x345),
   (0x37A, 0x37A), (0x10FC, 0x10FC), (0x1D2C, 0x1D6A), (0x1D78, 0x1D78), (0x1D9B, 0x1DBF),
   (0x2071, 0x2071), (0x207F, 0x207F), (0x2090, 0x209C), (0x2170, 0x217F), (0x24D0, 0x24E9),
   (0x2C7C, 0x2C7D), (0xA69C, 0xA69D), (0xA770, 0xA770), (0xA7F2, 0xA7F4), (0xA7F8, 0xA7F9),
   (0xAB5C, 0xAB5F), (0xAB69, 0xAB69), (0x10780, 0x10780), (0x10783, 0x10785), (0x10787, 0x107B0),
   (0x107B2, 0x107BA), (0x1E030, 0x1E06D)]

/-- The capital characters that are no capital letters. -/
def otherUppercase : RangeSet :=
  [(0x2160, 0x216F), (0x24B6, 0x24CF), (0x1F130, 0x1F149), (0x1F150, 0x1F169), (0x1F170, 0x1F189)]

namespace CharProperty

/-- The ranges of code points that make up a property. They may overlap. -/
def tables : CharProperty → List RangeSet
  | any => [[(0, lastPoint)]]
  | ascii => [[(0, 0x7F)]]
  | assigned => [RangeSet.compl unassignedPoints]
  | category categories => categories.map Category.points
  | script name => (scriptOfName? name).toList.map Script.points
  | alphabetic => [alphabeticChars]
  | lowercase => [otherLowercase, lowercaseLetters]
  | uppercase => [otherUppercase, uppercaseLetters]
  | whiteSpace => [blankRanges]

/-- Whether a character has a property. -/
def holds (property : CharProperty) (c : Char) : Bool :=
  property.tables.any fun points => inRanges points c.toNat

/-- The code points that have a property. -/
def points (property : CharProperty) : RangeSet :=
  property.tables.foldr RangeSet.union []

end CharProperty

/-- The form of a name that is compared. A single `c` after the word `is` is the
    exception that keeps the word, as one name has just these letters. -/
def looseName (cs : List Char) : String :=
  let (shortened, body) :=
    match cs with
    | i :: s :: rest => if i.toLower = 'i' && s.toLower = 's' then (true, rest) else (false, cs)
    | _ => (false, cs)
  let kept := body.filter fun c => c.toNat < 0x80 && c != ' ' && c != '_' && c != '-'
  let key := String.ofList (kept.map Char.toLower)
  if shortened && key = "c" then "isc" else key

namespace CharProperty

/-- The property that a value of the general category stands for. -/
def ofCategoryName? : String → Option CharProperty
  | "any" => some any
  | "ascii" => some ascii
  | "assigned" => some assigned
  | name => (Category.ofName? name).map category

/-- The property that the name of a script stands for. -/
def ofScriptName? (name : String) : Option CharProperty :=
  if (scriptOfName? name).isSome then some (script name) else none

/-- The property that a name stands for on its own. -/
def ofName? : String → Option CharProperty
  | "alphabetic" | "alpha" => some alphabetic
  | "lowercase" | "lower" => some lowercase
  | "uppercase" | "upper" => some uppercase
  | "whitespace" | "wspace" | "space" => some whiteSpace
  | name => ofCategoryName? name <|> ofScriptName? name

/-- The property that a name and a value stand for together. -/
def ofValue? (name value : String) : Option CharProperty :=
  match name with
  | "generalcategory" | "gc" => ofCategoryName? value
  | "script" | "sc" => ofScriptName? value
  | _ => none

end CharProperty

end Text

end Reckon
