import Reckon.Text.RangeSet

/-!
# Blank Characters

Trimming, and the class of characters it removes. A character is blank when
the `White_Space` property of Unicode holds of it: the five ASCII controls from
tab to carriage return, the space, and nineteen characters beyond ASCII.

Trimming is used where a text is taken apart (the inside of a bracket, the
elements of a list, the parts of a loop header). Between tokens far fewer
characters may stand, and that smaller class is `Lexeme.isSpacing`.

## Main definitions

* `Text.isBlank`: The characters that trimming removes.
* `Text.trim`: A text without the blanks at either end.
* `Text.allBlank`: Whether nothing is left after trimming.

## Theorems

* `Text.length_trim_le`: Trimming never lengthens.
-/

namespace Reckon

namespace Text

/-- The blank characters, as ranges of code points. -/
def blankRanges : RangeSet :=
  [(0x9, 0xD), (0x20, 0x20), (0x85, 0x85), (0xA0, 0xA0), (0x1680, 0x1680), (0x2000, 0x200A),
   (0x2028, 0x2029), (0x202F, 0x202F), (0x205F, 0x205F), (0x3000, 0x3000)]

/-- A character with the Unicode property `White_Space`. -/
def isBlank (c : Char) : Bool :=
  inRanges blankRanges c.toNat

/-- The text from its first character that is not blank. -/
def trimStart (cs : List Char) : List Char :=
  cs.dropWhile isBlank

/-- The text up to its last character that is not blank. -/
def trimEnd (cs : List Char) : List Char :=
  (cs.reverse.dropWhile isBlank).reverse

/-- The text between its first and its last character that are not blank. -/
def trim (cs : List Char) : List Char :=
  trimEnd (trimStart cs)

/-- Whether a text has no character that is not blank. -/
def allBlank (cs : List Char) : Bool :=
  cs.all isBlank

/-- What trimming at the start leaves is no longer than the text. -/
theorem length_trimStart_le (cs : List Char) : (trimStart cs).length ≤ cs.length :=
  (List.dropWhile_sublist isBlank).length_le

/-- What trimming at the end leaves is no longer than the text. -/
theorem length_trimEnd_le (cs : List Char) : (trimEnd cs).length ≤ cs.length := by
  have h := (List.dropWhile_sublist (l := cs.reverse) isBlank).length_le
  simpa [trimEnd] using h

/-- Trimming never lengthens. -/
theorem length_trim_le (cs : List Char) : (trim cs).length ≤ cs.length :=
  Nat.le_trans (length_trimEnd_le _) (length_trimStart_le cs)

end Text

end Reckon
