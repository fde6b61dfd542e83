/-!
# Decimal Numbers

A decimal is an unscaled integer together with a scale: it denotes
`unscaled / 10 ^ scale`. The scale is part of the number that a program sees,
since `2.50` and `2.5` are printed differently, but no comparison looks at it.
A negative scale stands for trailing zeros before the point.

Sums, differences and remainders are taken on a common scale and are exact.
Each operation fixes the scale of its result:

* a difference and a remainder have the larger of the two scales;
* so has a sum, except that adding zero keeps the other operand and widens its
  scale by at most `zeroWidening` digits;
* a product has the sum of the scales, except that multiplying by one gives the
  other operand in its shortest form.

## Main definitions

* `Decimal`: An unscaled integer and a scale.
* `Decimal.powerOfTen`: The factor between two scales.
* `Decimal.unscaledAt`: The unscaled integer of a decimal on a larger scale.
* `Decimal.compare`: The order of the numbers denoted.
* `Decimal.add`, `Decimal.sub`, `Decimal.mul`, `Decimal.rem`: Arithmetic.
* `Decimal.truncate`: The integer part, toward zero.
-/

namespace Reckon

/-- The number `unscaled / 10 ^ scale`. -/
structure Decimal where
  unscaled : Int
  scale : Int
deriving DecidableEq, Repr, Inhabited

namespace Decimal

/-- The power of ten with exponent `n`: the factor between two scales that lie
    `n` digits apart. -/
def powerOfTen (n : Nat) : Nat := Nat.pow 10 n

@[simp] theorem powerOfTen_zero : powerOfTen 0 = 1 := rfl

theorem powerOfTen_succ (n : Nat) : powerOfTen (n + 1) = powerOfTen n * 10 := rfl

theorem powerOfTen_pos (n : Nat) : 0 < powerOfTen n := by
  induction n with
  | zero => exact Nat.one_pos
  | succ n ih => exact Nat.mul_pos ih (by decide)

/-- An integer as a decimal of scale 0. -/
def ofInt (n : Int) : Decimal := ⟨n, 0⟩

/-- Whether the number denoted is zero. -/
def isZero (d : Decimal) : Bool := d.unscaled == 0

/-- The unscaled integer that denotes the same number on scale `s`, for an `s`
    that is at least the scale of `d`. -/
def unscaledAt (d : Decimal) (s : Int) : Int :=
  d.unscaled * powerOfTen (s - d.scale).toNat

/-- The same number with `digits` more digits after the point. -/
def widen (d : Decimal) (digits : Nat) : Decimal :=
  ⟨d.unscaled * powerOfTen digits, d.scale + digits⟩

/-- The order of the numbers denoted. -/
def compare (a b : Decimal) : Ordering :=
  let s := max a.scale b.scale
  Ord.compare (a.unscaledAt s) (b.unscaledAt s)

/-- Whether two decimals denote the same number. -/
def same (a b : Decimal) : Bool := compare a b == .eq

/-- The most digits that a sum gains from an operand that is zero. -/
def zeroWidening : Nat := 15

/-- The sum of a decimal and a zero of scale `s`: a decimal that has fewer
    digits after the point than the zero gains up to `zeroWidening` of them. -/
def addZero (d : Decimal) (s : Int) : Decimal :=
  d.widen (min zeroWidening (s - d.scale).toNat)

/-- The sum of two decimals. -/
def add (a b : Decimal) : Decimal :=
  if b.isZero then a.addZero b.scale
  else if a.isZero then b.addZero a.scale
  else
    let s := max a.scale b.scale
    ⟨a.unscaledAt s + b.unscaledAt s, s⟩

/-- The difference of two decimals. -/
def sub (a b : Decimal) : Decimal :=
  let s := max a.scale b.scale
  ⟨a.unscaledAt s - b.unscaledAt s, s⟩

/-- The largest scale on which `isUnit` recognises the number one. -/
def unitScale : Int := 38

/-- Whether a decimal is the number one, written with at most `unitScale`
    digits after the point. -/
def isUnit (d : Decimal) : Bool :=
  0 ≤ d.scale && d.scale ≤ unitScale && d.unscaled == powerOfTen d.scale.toNat

/-- How many zeros a positive number ends in. -/
def trailingZeros (n : Nat) : Nat :=
  if h : n ≠ 0 ∧ n % 10 = 0 then trailingZeros (n / 10) + 1 else 0
termination_by n
decreasing_by omega

/-- The same number on the smallest scale: no trailing zero is left in the
    unscaled integer, and zero has scale 0. -/
def shortest (d : Decimal) : Decimal :=
  if d.isZero then ⟨0, 0⟩
  else
    let zeros := trailingZeros d.unscaled.natAbs
    ⟨d.unscaled.tdiv (powerOfTen zeros), d.scale - zeros⟩

/-- The product of two decimals. -/
def mul (a b : Decimal) : Decimal :=
  if a.isUnit then b.shortest
  else if b.isUnit then a.shortest
  else ⟨a.unscaled * b.unscaled, a.scale + b.scale⟩

/-- The remainder of truncated division, which has the sign of the dividend.
    The divisor must not be zero. -/
def rem (a b : Decimal) : Decimal :=
  let s := max a.scale b.scale
  ⟨(a.unscaledAt s).tmod (b.unscaledAt s), s⟩

/-- The integer part of the number denoted, toward zero. -/
def truncate (d : Decimal) : Int :=
  if d.scale ≤ 0 then d.unscaledAt 0 else d.unscaled.tdiv (powerOfTen d.scale.toNat)

/-- Whether the number denoted is an integer. -/
def isInteger (d : Decimal) : Bool :=
  d.scale ≤ 0 || d.unscaled % powerOfTen d.scale.toNat == 0

end Decimal

end Reckon
