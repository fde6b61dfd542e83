import Reckon.Text.AlphabeticChar
import Reckon.Text.Category.Mark
import Reckon.Text.Category.Punctuation
import Reckon.Text.DigitChar

/-!
# Word Characters

The characters that words are made of in any script, as Unicode recommends for
patterns: the alphabetic characters, the decimal digits, the marks, the connecting
punctuation and the two joiners. Names in expressions are written in ASCII only;
this class is what `\w` means in a pattern.

## Main definitions

* `Text.isWordChar`: Membership in the class.
* `Text.wordChars`: The class as ranges.
-/

namespace Reckon

namespace Text

/-- The two characters that only join or part the characters around them. -/
def joinControls : RangeSet := [(0x200C, 0x200D)]

/-- A character that belongs to the letter before it or joins two of them: a mark,
    a connector or a joiner. -/
def isConnector (c : Char) : Bool :=
  [connectorPunctuation, joinControls, nonspacingMarks, spacingMarks, enclosingMarks].any
    fun points => inRanges points c.toNat

/-- A word character of any script. -/
def isWordChar (c : Char) : Bool :=
  isAlphabetic c || isDecimalDigit c || isConnector c

/-- The word characters as ranges. -/
def wordChars : RangeSet :=
  [connectorPunctuation, joinControls, decimalNumbers, nonspacingMarks, spacingMarks,
    enclosingMarks].foldr RangeSet.union alphabeticChars

end Text

end Reckon
