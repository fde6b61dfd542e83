import Reckon.Decimal.Basic
import Reckon.Text.Cut

/-!
# Decimal Notation

Decimals are written in plain positional notation with exactly as many digits
after the point as the scale says, and with trailing zeros for a negative
scale: no exponent, no sign on zero.

Two notations are read. A *number text* is an optional minus sign, digits, and
optionally a point with more digits; it is what text values are tested against
when they meet an arithmetic operator. The wider notation of `ofNotation?` adds
an exponent and is used where numbers come from outside.

## Main definitions

* `Decimal.digits`: The characters of a decimal in plain notation.
* `Decimal.isNumberText`: Whether a text is a number text.
* `Decimal.ofNumberText?`: The decimal that a number text denotes.
* `Decimal.ofNotation?`: The same with an optional exponent.
-/

namespace Reckon

namespace Decimal

/-- The digits of a natural number in base ten. -/
def natDigits (n : Nat) : List Char := Nat.toDigits 10 n

/-- The natural number that a row of digits denotes in base ten. -/
def ofDigits (cs : List Char) : Nat := Nat.ofDigitChars 10 cs 0

/-- The magnitude of a decimal with `places` digits after the point, padded
    with zeros so that one digit stands before the point. -/
def pointed (magnitude places : Nat) : List Char :=
  let ds := natDigits magnitude
  let padded := List.replicate (places + 1 - ds.length) '0' ++ ds
  let whole := padded.length - places
  padded.take whole ++ '.' :: padded.drop whole

/-- A decimal in plain notation. -/
def digits (d : Decimal) : List Char :=
  let magnitude := d.unscaled.natAbs
  let body :=
    if d.scale ≤ 0 then natDigits magnitude ++ List.replicate (-d.scale).toNat '0'
    else pointed magnitude d.scale.toNat
  if d.unscaled < 0 then '-' :: body else body

/-- A decimal in plain notation, as text. -/
def text (d : Decimal) : String := String.ofList d.digits

/-- A row of one or more ASCII digits. -/
def isDigits (cs : List Char) : Bool :=
  !cs.isEmpty && cs.all Char.isDigit

/-- A text without its leading minus sign, and whether it had one. -/
def cutMinus : List Char → Bool × List Char
  | '-' :: cs => (true, cs)
  | cs => (false, cs)

/-- Digits before and after the point of a number text without sign. -/
def cutPoint? (cs : List Char) : Option (List Char × List Char) :=
  match Text.cutAt '.' cs with
  | (whole, none) => if isDigits whole then some (whole, []) else none
  | (whole, some places) =>
    if isDigits whole && isDigits places then some (whole, places) else none

/-- The decimal that a number text denotes: an optional minus sign, one or more
    digits, and optionally a point with one or more digits. Its scale is the
    number of digits after the point. -/
def ofNumberText? (cs : List Char) : Option Decimal :=
  let (negative, body) := cutMinus cs
  (cutPoint? body).map fun (whole, places) =>
    let magnitude : Int := ofDigits (whole ++ places)
    ⟨if negative then -magnitude else magnitude, places.length⟩

/-- Whether a text is a number text. -/
def isNumberText (cs : List Char) : Bool :=
  (ofNumberText? cs).isSome

/-- An integer with an optional sign of either kind. -/
def signed? (cs : List Char) : Option Int :=
  match cs with
  | '+' :: tail => if isDigits tail then some (ofDigits tail) else none
  | _ =>
    let (negative, body) := cutMinus cs
    if isDigits body then some (if negative then -(ofDigits body : Int) else ofDigits body)
    else none

/-- The decimal that a text denotes in scientific notation: a number text,
    optionally followed by `e` or `E` and a signed exponent, which is taken
    from the scale. -/
def ofNotation? (cs : List Char) : Option Decimal :=
  match Text.cutAt 'e' (cs.map fun c => if c = 'E' then 'e' else c) with
  | (mantissa, none) => ofNumberText? mantissa
  | (mantissa, some exponent) =>
    match ofNumberText? mantissa, signed? exponent with
    | some d, some e => some ⟨d.unscaled, d.scale - e⟩
    | _, _ => none

end Decimal

end Reckon
