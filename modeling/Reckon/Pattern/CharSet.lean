import Reckon.Text.Blank
import Reckon.Text.CaseFold
import Reckon.Text.CharProperty
import Reckon.Text.WordChar

/-!
# Sets of Characters

What a pattern asks of one character: sets built from ranges and from the classes
of digits, blanks and word characters, with the operations of sets and closure
under case.

A set answers in two ways. `CharSet.contains` decides membership of a character.
`CharSet.points` writes the set out as ranges of code points, which is what the
encodings of its members are counted on.

## Main definitions

* `Alphabet`: The characters that a class is taken from.
* `CharSet`: Sets of characters.
* `CharSet.contains`: Membership.
* `CharSet.points`: The members as ranges of code points.
-/

namespace Reckon

/-- The characters that the classes and the case forms are taken from. -/
inductive Alphabet where
  | unicode
  | ascii
deriving DecidableEq, Repr, Inhabited

/-- The letters of an alphabet that fold to another case. -/
def Alphabet.foldRuns : Alphabet → List Text.FoldRun
  | unicode => Text.unicodeRuns
  | ascii => Text.asciiRuns

/-- A set of characters. -/
inductive CharSet where
  | none
  /-- The characters between two, both included. -/
  | range (first last : Char)
  /-- The decimal digits of all scripts. -/
  | digit
  /-- The blank characters. -/
  | space
  /-- The word characters of all scripts. -/
  | word
  /-- The characters that have a property. -/
  | property (p : Text.CharProperty)
  | union (a b : CharSet)
  | inter (a b : CharSet)
  | compl (a : CharSet)
  /-- The characters that are in a set up to case. -/
  | folded (alphabet : Alphabet) (a : CharSet)
deriving DecidableEq, Repr, Inhabited

namespace CharSet

/-- The set of one character. -/
def single (c : Char) : CharSet := range c c

/-- All characters. -/
def any : CharSet := compl none

/-- The union of some ranges of characters. -/
def ofRanges (ranges : List (Char × Char)) : CharSet :=
  ranges.foldr (fun r s => union (range r.1 r.2) s) none

/-- The characters in the first set but not in the second. -/
def diff (a b : CharSet) : CharSet := inter a (compl b)

/-- The characters in exactly one of two sets. -/
def symmDiff (a b : CharSet) : CharSet := union (diff a b) (diff b a)

/-- Membership in a set. -/
def contains : CharSet → Char → Bool
  | none, _ => false
  | range first last, c => first ≤ c && c ≤ last
  | digit, c => Text.isDecimalDigit c
  | space, c => Text.isBlank c
  | word, c => Text.isWordChar c
  | property p, c => p.holds c
  | union a b, c => a.contains c || b.contains c
  | inter a b, c => a.contains c && b.contains c
  | compl a, c => !a.contains c
  | folded alphabet a, c => (Text.caseForms alphabet.foldRuns c).any fun d => a.contains d

open Text (RangeSet) in
/-- The members of a set as ranges of code points. -/
def points : CharSet → RangeSet
  | none => []
  | range first last => if first ≤ last then [(first.toNat, last.toNat)] else []
  | digit => Text.decimalNumbers
  | space => Text.blankRanges
  | word => Text.wordChars
  | property p => p.points
  | union a b => RangeSet.union a.points b.points
  | inter a b => RangeSet.inter a.points b.points
  | compl a => RangeSet.compl a.points
  | folded alphabet a => Text.caseClosure alphabet.foldRuns a.points

end CharSet

namespace Alphabet

/-- The ASCII digits. -/
def asciiDigit : CharSet := .ofRanges [('0', '9')]

/-- The blank ASCII characters. -/
def asciiSpace : CharSet := .ofRanges [('\t', '\r'), (' ', ' ')]

/-- The ASCII letters and digits and the low line. -/
def asciiWord : CharSet := .ofRanges [('0', '9'), ('A', 'Z'), ('_', '_'), ('a', 'z')]

/-- The decimal digits of an alphabet. -/
def digit : Alphabet → CharSet
  | unicode => .digit
  | ascii => asciiDigit

/-- The blank characters of an alphabet. -/
def space : Alphabet → CharSet
  | unicode => .space
  | ascii => asciiSpace

/-- The word characters of an alphabet. -/
def word : Alphabet → CharSet
  | unicode => .word
  | ascii => asciiWord

end Alphabet

end Reckon
