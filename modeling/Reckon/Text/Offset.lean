/-!
# Byte Offsets

Texts are lists of characters, and places in them are counted in bytes of
their UTF-8 form. This module converts between the two: how many bytes a run of
characters takes, which characters stand after a given number of bytes, and at
which byte a text occurs inside another.

An offset that falls inside a character names no place, so `dropBytes` answers
`none` there.

## Main definitions

* `Text.width`: The bytes of a text.
* `Text.dropBytes`: The text from a byte offset on.
* `Text.seek`: The text from the first occurrence of another on.
* `Text.offsetOf`: The byte offset of the first occurrence at or after a place.

## Theorems

* `Text.width_append`: Widths add up.
-/

namespace Reckon

namespace Text

/-- The number of bytes of a text in UTF-8. -/
def width (cs : List Char) : Nat :=
  cs.foldr (fun c bytes => c.utf8Size + bytes) 0

@[simp] theorem width_nil : width [] = 0 := rfl

@[simp] theorem width_cons (c : Char) (cs : List Char) :
    width (c :: cs) = c.utf8Size + width cs := rfl

@[simp] theorem width_append (as bs : List Char) : width (as ++ bs) = width as + width bs := by
  induction as with
  | nil => simp
  | cons a as ih => simp [ih, Nat.add_assoc]

/-- The text after its first `n` bytes, or `none` if the text is shorter or
    byte `n` is not the first of a character. -/
def dropBytes : Nat → List Char → Option (List Char)
  | 0, cs => some cs
  | _ + 1, [] => none
  | n + 1, c :: cs => if c.utf8Size ≤ n + 1 then dropBytes (n + 1 - c.utf8Size) cs else none

/-- The text from the first occurrence of `needle` on. -/
def seek (needle : List Char) : List Char → Option (List Char)
  | [] => if needle.isEmpty then some [] else none
  | c :: cs => if needle.isPrefixOf (c :: cs) then some (c :: cs) else seek needle cs

/-- Whether `needle` occurs somewhere in a text. -/
def occurs (needle cs : List Char) : Bool :=
  (seek needle cs).isSome

/-- The byte offset of the first occurrence of `inner` in `outer` that starts
    at byte `start` or later. Where there is none, `start` itself. -/
def offsetOf (outer : List Char) (start : Nat) (inner : List Char) : Nat :=
  match dropBytes start outer with
  | none => start
  | some tail =>
    match seek inner tail with
    | none => start
    | some found => start + (width tail - width found)

/-- The number of characters before byte `n`, or 0 where no character starts
    there. -/
def column (cs : List Char) (n : Nat) : Nat :=
  match dropBytes n cs with
  | none => 0
  | some tail => cs.length - tail.length

/-- The characters of `cs` before the tail `tail`. -/
def upTo (cs tail : List Char) : List Char :=
  cs.take (cs.length - tail.length)

end Text

end Reckon
