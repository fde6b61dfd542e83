import Reckon.Text.RangeSet

/-!
# Ranges of Encoded Characters

The UTF-8 encodings of a range of characters, described by sequences of byte
ranges: a character of the range is encoded by one byte from each range of one of
the sequences, in order, and nothing else is.

A character is a first byte and up to three more that carry six bits each. With
the number of further bytes fixed, the values with one first byte are a block, so
a range of values is a part of its lowest block, whole blocks, and a part of its
highest one. In the whole blocks the further bytes are free.

## Main definitions

* `ByteRange`: The bytes that may stand at one place.
* `Utf8.shares`: A range of values by blocks.
* `Utf8.sequences`: The sequences of a range of values.
* `Utf8.encodings`: The sequences of a range of code points.
-/

namespace Reckon

namespace Text

/-- The bytes from one to another, both included. -/
abbrev ByteRange := Nat × Nat

namespace Utf8

/-- Values in blocks of equal size: all those of the blocks from `low` to `high`
    whose offset in their block is from `first` to `last`. -/
structure Share where
  low : Nat
  high : Nat
  first : Nat
  last : Nat

/-- The values from `first` to `last`, shared out by their blocks: a part of the
    lowest block, whole blocks, and a part of the highest, as far as there are
    such. -/
def shares (size first last : Nat) : List Share :=
  let low := first / size
  let high := last / size
  let start := first % size
  let stop := last % size
  if low = high then [⟨low, low, start, stop⟩]
  else
    let lowest := if start = 0 then low else low + 1
    let highest := if stop = size - 1 then high else high - 1
    (if start = 0 then [] else [⟨low, low, start, size - 1⟩]) ++
      (if lowest ≤ highest then [⟨lowest, highest, 0, size - 1⟩] else []) ++
      (if stop = size - 1 then [] else [⟨high, high, 0, stop⟩])

/-- The sequences of the values from `first` to `last`, written as a byte counted
    from `base` and `further` more bytes that carry six bits each. -/
def sequences (base : Nat) : (further : Nat) → (first last : Nat) → List (List ByteRange)
  | 0, first, last => [[(base + first, base + last)]]
  | further + 1, first, last =>
    (shares (1 <<< (6 * (further + 1))) first last).flatMap fun share =>
      (sequences 0x80 further share.first share.last).map
        ((base + share.low, base + share.high) :: ·)

/-- Characters that are encoded alike: the first and the last code point, what
    the first byte is counted from, and the number of further bytes. -/
structure Width where
  first : Nat
  last : Nat
  base : Nat
  further : Nat

/-- The code points of characters by the length of their encodings. The
    surrogates are left out. -/
def widths : List Width :=
  [⟨0, 0x7F, 0, 0⟩, ⟨0x80, 0x7FF, 0xC0, 1⟩, ⟨0x800, 0xD7FF, 0xE0, 2⟩,
   ⟨0xE000, 0xFFFF, 0xE0, 2⟩, ⟨0x10000, 0x10FFFF, 0xF0, 3⟩]

/-- The sequences of the characters from one code point to another. -/
def encodings (first last : Nat) : List (List ByteRange) :=
  widths.flatMap fun w =>
    let low := max first w.first
    let high := min last w.last
    if low ≤ high then sequences w.base w.further low high else []

/-- The number of bytes that encode a code point. -/
def byteCount (n : Nat) : Nat :=
  if n ≤ 0x7F then 1 else if n ≤ 0x7FF then 2 else if n ≤ 0xFFFF then 3 else 4

end Utf8

end Text

end Reckon
