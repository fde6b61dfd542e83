import Reckon.Text.Category.Invisible
import Reckon.Text.Category.Letter
import Reckon.Text.Category.Mark
import Reckon.Text.Category.Number
import Reckon.Text.Category.Punctuation
import Reckon.Text.Category.Symbol
import Reckon.Text.Category.Unassigned

/-!
# General Categories

Unicode puts every code point into one general category. A category has a name
and an abbreviation of two letters. The categories that begin with one letter are
a group, which has a name of its own.

## Main definitions

* `Text.Category`: The general categories.
* `Text.Category.points`: The code points of a category.
* `Text.Category.ofName?`: The categories that a name stands for.
-/

namespace Reckon

namespace Text

/-- A general category. -/
inductive Category where
  | uppercaseLetter
  | lowercaseLetter
  | titlecaseLetter
  | modifierLetter
  | otherLetter
  | nonspacingMark
  | spacingMark
  | enclosingMark
  | decimalNumber
  | letterNumber
  | otherNumber
  | connectorPunctuation
  | dashPunctuation
  | openPunctuation
  | closePunctuation
  | initialPunctuation
  | finalPunctuation
  | otherPunctuation
  | mathSymbol
  | currencySymbol
  | modifierSymbol
  | otherSymbol
  | spaceSeparator
  | lineSeparator
  | paragraphSeparator
  | control
  | format
  | privateUse
  /-- No character is assigned to the code point, or it is a surrogate. -/
  | unassigned
deriving DecidableEq, Repr, Inhabited

namespace Category

/-- The letters. -/
def letters : List Category :=
  [uppercaseLetter, lowercaseLetter, titlecaseLetter, modifierLetter, otherLetter]

/-- The letters that have case. -/
def casedLetters : List Category := [uppercaseLetter, lowercaseLetter, titlecaseLetter]

/-- The marks. -/
def marks : List Category := [nonspacingMark, spacingMark, enclosingMark]

/-- The numbers. -/
def numbers : List Category := [decimalNumber, letterNumber, otherNumber]

/-- The punctuation. -/
def punctuation : List Category :=
  [connectorPunctuation, dashPunctuation, openPunctuation, closePunctuation, initialPunctuation,
   finalPunctuation, otherPunctuation]

/-- The symbols. -/
def symbols : List Category := [mathSymbol, currencySymbol, modifierSymbol, otherSymbol]

/-- The separators. -/
def separators : List Category := [spaceSeparator, lineSeparator, paragraphSeparator]

/-- What is in no other group. -/
def others : List Category := [control, format, privateUse, unassigned]

/-- The code points of a category. -/
def points : Category → RangeSet
  | uppercaseLetter => uppercaseLetters
  | lowercaseLetter => lowercaseLetters
  | titlecaseLetter => titlecaseLetters
  | modifierLetter => modifierLetters
  | otherLetter => otherLetters
  | nonspacingMark => nonspacingMarks
  | spacingMark => spacingMarks
  | enclosingMark => enclosingMarks
  | decimalNumber => decimalNumbers
  | letterNumber => letterNumbers
  | otherNumber => otherNumbers
  | connectorPunctuation => Text.connectorPunctuation
  | dashPunctuation => Text.dashPunctuation
  | openPunctuation => Text.openPunctuation
  | closePunctuation => Text.closePunctuation
  | initialPunctuation => Text.initialPunctuation
  | finalPunctuation => Text.finalPunctuation
  | otherPunctuation => Text.otherPunctuation
  | mathSymbol => mathSymbols
  | currencySymbol => currencySymbols
  | modifierSymbol => modifierSymbols
  | otherSymbol => otherSymbols
  | spaceSeparator => spaceSeparators
  | lineSeparator => lineSeparators
  | paragraphSeparator => paragraphSeparators
  | control => controls
  | format => formats
  | privateUse => Text.privateUse
  | unassigned => unassignedPoints

/-- The categories that a name stands for, in small letters and without any mark
    between words. -/
def ofName? : String → Option (List Category)
  | "l" | "letter" => some letters
  | "lc" | "casedletter" => some casedLetters
  | "lu" | "uppercaseletter" => some [uppercaseLetter]
  | "ll" | "lowercaseletter" => some [lowercaseLetter]
  | "lt" | "titlecaseletter" => some [titlecaseLetter]
  | "lm" | "modifierletter" => some [modifierLetter]
  | "lo" | "otherletter" => some [otherLetter]
  | "m" | "mark" | "combiningmark" => some marks
  | "mn" | "nonspacingmark" => some [nonspacingMark]
  | "mc" | "spacingmark" => some [spacingMark]
  | "me" | "enclosingmark" => some [enclosingMark]
  | "n" | "number" => some numbers
  | "nd" | "decimalnumber" | "digit" => some [decimalNumber]
  | "nl" | "letternumber" => some [letterNumber]
  | "no" | "othernumber" => some [otherNumber]
  | "p" | "punctuation" | "punct" => some punctuation
  | "pc" | "connectorpunctuation" => some [connectorPunctuation]
  | "pd" | "dashpunctuation" => some [dashPunctuation]
  | "ps" | "openpunctuation" => some [openPunctuation]
  | "pe" | "closepunctuation" => some [closePunctuation]
  | "pi" | "initialpunctuation" => some [initialPunctuation]
  | "pf" | "finalpunctuation" => some [finalPunctuation]
  | "po" | "otherpunctuation" => some [otherPunctuation]
  | "s" | "symbol" => some symbols
  | "sm" | "mathsymbol" => some [mathSymbol]
  | "sc" | "currencysymbol" => some [currencySymbol]
  | "sk" | "modifiersymbol" => some [modifierSymbol]
  | "so" | "othersymbol" => some [otherSymbol]
  | "z" | "separator" => some separators
  | "zs" | "spaceseparator" => some [spaceSeparator]
  | "zl" | "lineseparator" => some [lineSeparator]
  | "zp" | "paragraphseparator" => some [paragraphSeparator]
  | "c" | "other" => some others
  | "cc" | "control" | "cntrl" => some [control]
  | "cf" | "format" => some [format]
  | "co" | "privateuse" => some [privateUse]
  | "cn" | "unassigned" => some [unassigned]
  | _ => none

end Category

end Text

end Reckon
