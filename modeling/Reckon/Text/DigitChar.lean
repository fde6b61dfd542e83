import Reckon.Text.Category.Number

/-!
# Digits and Numbers

The decimal digits of all scripts, and the characters that are numbers in any way:
Roman numerals, fractions, digits above the line or in a circle. Numbers in
expressions are written in ASCII digits only; these classes are what `\d` means in
a pattern and what the name of a group may hold.

## Main definitions

* `Text.isDecimalDigit`: A decimal digit.
* `Text.isNumeric`: A number of any kind.
-/

namespace Reckon

namespace Text

/-- A decimal digit of any script. -/
def isDecimalDigit (c : Char) : Bool :=
  inRanges decimalNumbers c.toNat

/-- A number of any script and of any kind. -/
def isNumeric (c : Char) : Bool :=
  isDecimalDigit c || inRanges letterNumbers c.toNat || inRanges otherNumbers c.toNat

end Text

end Reckon
