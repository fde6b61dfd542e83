import Reckon.Decimal.Basic

/-!
# Rounding and Division

A quotient of integers is rounded to a neighbouring integer by one of seven
modes. The rule is stated on magnitudes: with `n = q * d + r`, the magnitude `q`
is either kept or raised by one, and the sign of the quotient is put back
afterwards. What a mode needs to know is the sign, whether `q` is odd, and how
`r` compares with half of `d`.

A quotient of decimals may have more digits than can be written. It is cut off
one digit behind the last one of the result, toward zero, and what was cut off
leaves a trace: a further digit, one away from zero, if anything was left. The
number with these two digits is then rounded.

## Main definitions

* `Rounding`: The seven modes.
* `Rounding.ofName?`: The mode with a given name.
* `Rounding.raises`: Whether a mode raises the magnitude.
* `Rounding.quotient`: A quotient of integers, rounded.
* `Decimal.traced`: A quotient of integers with a digit for its remainder.
* `Decimal.roundedTo`: A decimal with fewer digits.
* `Decimal.divide`: A quotient of decimals with `divisionScale` digits.
-/

namespace Reckon

/-- Which neighbour stands for a number that lies between two. -/
inductive Rounding where
  /-- Away from zero. -/
  | up
  /-- Toward zero. -/
  | down
  /-- Toward the larger number. -/
  | ceiling
  /-- Toward the smaller number. -/
  | floor
  /-- To the nearest, a half away from zero. -/
  | halfUp
  /-- To the nearest, a half toward zero. -/
  | halfDown
  /-- To the nearest, a half to the even neighbour. -/
  | halfEven
deriving DecidableEq, Repr, Inhabited

namespace Rounding

/-- The mode with a given name. Letters may have either case, and words are
    joined by a hyphen or an underscore. -/
def ofName? (name : String) : Option Rounding :=
  match String.ofList ((name.toList.map Char.toLower).map fun c => if c = '_' then '-' else c) with
  | "up" => some up
  | "down" => some down
  | "ceiling" => some ceiling
  | "floor" => some floor
  | "half-up" => some halfUp
  | "half-down" => some halfDown
  | "half-even" => some halfEven
  | _ => none

/-- Whether the magnitude `q` of a quotient is raised to `q + 1`, given the
    sign of the quotient and the remainder `r` of its division by `d`. -/
def raises (mode : Rounding) (negative : Bool) (q r d : Nat) : Bool :=
  if r = 0 then false
  else
    match mode with
    | up => true
    | down => false
    | ceiling => !negative
    | floor => negative
    | halfUp => d ≤ 2 * r
    | halfDown => d < 2 * r
    | halfEven => d < 2 * r || (d == 2 * r && q % 2 == 1)

/-- The quotient of two integers, rounded to an integer. The divisor must not
    be zero. -/
def quotient (mode : Rounding) (num den : Int) : Int :=
  let negative := (num < 0) != (den < 0)
  let d := den.natAbs
  let q := num.natAbs / d
  let magnitude := if mode.raises negative q (num.natAbs % d) d then q + 1 else q
  if negative then -(magnitude : Int) else magnitude

end Rounding

namespace Decimal

/-- The digits after the point that every quotient has. -/
def divisionScale : Int := 20

/-- The largest power of ten by which operands of a division are scaled. -/
def exponentLimit : Nat := 0xFFFFFFFF

/-- The quotient of two integers toward zero with one digit more: `1`, away from
    zero, if a remainder was left, and `0` otherwise. The divisor must not be
    zero. -/
def traced (num den : Int) : Int :=
  let digits := num.tdiv den * 10
  if num.tmod den = 0 then digits
  else if num.sign = den.sign then digits + 1
  else digits - 1

/-- A decimal rounded to `s` digits after the point, for an `s` that is at most
    its scale. -/
def roundedTo (d : Decimal) (s : Int) (mode : Rounding) : Decimal :=
  ⟨mode.quotient d.unscaled (powerOfTen (d.scale - s).toNat), s⟩

/-- The quotient of two decimals, rounded to `divisionScale` digits, or `none`
    if the operands' scales lie too far apart to be aligned. The divisor must
    not be zero. -/
def divide (a b : Decimal) (mode : Rounding) : Option Decimal :=
  -- one digit behind the last of the result is taken exactly
  let shift := divisionScale + 1 + b.scale - a.scale
  if exponentLimit < shift.natAbs then none
  else
    let num := a.unscaled * powerOfTen shift.toNat
    let den := b.unscaled * powerOfTen (-shift).toNat
    some (roundedTo ⟨traced num den, divisionScale + 2⟩ divisionScale mode)

end Decimal

end Reckon
