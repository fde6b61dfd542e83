import Mathlib.Data.Int.Bitwise
import Reckon.Proofs.Comparison

/-!
# Bitwise Operators Are Integer Arithmetic

The bitwise operators work on rows of 32 bits, which are cut from a number in
whatever form it comes: an integer, a decimal of any scale, or a text that spells
one. What they come to can be said without bits and without representations. An
operand is read as an integer, its number rounded toward zero and brought between
`-2 ^ 31` and `2 ^ 31` by a multiple of `2 ^ 32` (`Value.word?`), and each operator
is a function of two such integers (`Operator.onWords`): a shift to the left
multiplies by a power of two, shifts to the right divide by one and round down, and
`&`, `|` and `^` are those of integers written in two's complement without an end.

The two sides meet in `BitVec.ofInt`, which takes the operations on integers to
those on rows of bits. It forgets multiples of `2 ^ 32`, so an equation there is one
of integers only between `-2 ^ 31` and `2 ^ 31`. The operations on single bits do not
leave this range (`Word.inRange_bitwise`), products are brought back into it, and the
magnitude leaves it in one place: that of `-2 ^ 31` is `-2 ^ 31` again.

## Main definitions

* `Word.InRange`: The integers that a row of bits denotes with its sign.
* `Word.ofInteger?`: An integer of 128 bits, cut to 32.
* `Value.word?`: The integer that a bitwise operator reads an operand as.
* `Operator.onWords`: What the bitwise operators do to two integers.

## Theorems

* `Word.ofInt_land`, `Word.ofInt_lor`, `Word.ofInt_xor`, `Word.ofInt_shiftLeft`,
  `Word.ofInt_abs`: Operations on integers and on their bits.
* `Value.bits?_eq`: The bits of an operand are those of the integer it is read as.
* `Word.onBits_eq`: An operation on bits that is one on integers.
* `Operator.apply_bitwise`: The seven bitwise operators.
-/

namespace Reckon

namespace Word

/-- The integers that `k + 1` bits denote if the first of them is a sign. -/
def InRange (k : Nat) (x : ℤ) : Prop := -2 ^ k ≤ x ∧ x < 2 ^ k

theorem inRange_natCast {k m : Nat} : InRange k m ↔ m < 2 ^ k := by
  have h : ((2 ^ k : Nat) : ℤ) = 2 ^ k := Nat.cast_pow 2 k
  unfold InRange
  omega

theorem inRange_negSucc {k m : Nat} : InRange k (Int.negSucc m) ↔ m < 2 ^ k := by
  have h : ((2 ^ k : Nat) : ℤ) = 2 ^ k := Nat.cast_pow 2 k
  unfold InRange
  omega

theorem inRange_natBitwise {k m n : Nat} (f : Bool → Bool → Bool) (hm : m < 2 ^ k)
    (hn : n < 2 ^ k) : InRange k (Int.natBitwise f m n) := by
  unfold Int.natBitwise
  cases f false false with
  | true => exact inRange_negSucc.mpr (Nat.bitwise_lt_two_pow hm hn)
  | false => exact inRange_natCast.mpr (Nat.bitwise_lt_two_pow hm hn)

/-- Operations on single bits stay in the range of their operands. -/
theorem inRange_bitwise {k : Nat} {x y : ℤ} (f : Bool → Bool → Bool) (hx : InRange k x)
    (hy : InRange k y) : InRange k (Int.bitwise f x y) := by
  unfold Int.bitwise
  split
  next m n => exact inRange_natBitwise _ (inRange_natCast.mp hx) (inRange_natCast.mp hy)
  next m n => exact inRange_natBitwise _ (inRange_natCast.mp hx) (inRange_negSucc.mp hy)
  next m n => exact inRange_natBitwise _ (inRange_negSucc.mp hx) (inRange_natCast.mp hy)
  next m n => exact inRange_natBitwise _ (inRange_negSucc.mp hx) (inRange_negSucc.mp hy)

theorem InRange.land {k : Nat} {x y : ℤ} (hx : InRange k x) (hy : InRange k y) :
    InRange k (Int.land x y) :=
  Int.bitwise_and ▸ inRange_bitwise and hx hy

theorem InRange.lor {k : Nat} {x y : ℤ} (hx : InRange k x) (hy : InRange k y) :
    InRange k (Int.lor x y) :=
  Int.bitwise_or ▸ inRange_bitwise or hx hy

theorem InRange.xor {k : Nat} {x y : ℤ} (hx : InRange k x) (hy : InRange k y) :
    InRange k (Int.xor x y) :=
  Int.bitwise_xor ▸ inRange_bitwise Bool.xor hx hy

theorem toInt_ofInt {k : Nat} {x : ℤ} (h : InRange k x) : (BitVec.ofInt (k + 1) x).toInt = x :=
  BitVec.toInt_ofInt_eq_self k.succ_pos h.1 h.2

/-! ### Integers and their bits -/

theorem getElem_ofInt {w i : Nat} (hi : i < w) (x : ℤ) :
    (BitVec.ofInt w x)[i] = x.testBit i := by
  cases x with
  | ofNat m =>
      rw [Int.ofNat_eq_natCast, BitVec.ofInt_natCast, ← BitVec.getLsbD_eq_getElem,
        BitVec.getLsbD_ofNat, decide_eq_true hi, Bool.true_and]
      rfl
  | negSucc m =>
      rw [BitVec.ofInt_negSucc_eq_not_ofNat, BitVec.getElem_not, ← BitVec.getLsbD_eq_getElem,
        BitVec.getLsbD_ofNat, decide_eq_true hi, Bool.true_and]
      rfl

theorem ofInt_land {w : Nat} (x y : ℤ) :
    BitVec.ofInt w (Int.land x y) = BitVec.ofInt w x &&& BitVec.ofInt w y := by
  ext i hi
  simp only [BitVec.getElem_and, getElem_ofInt, Int.testBit_land]

theorem ofInt_lor {w : Nat} (x y : ℤ) :
    BitVec.ofInt w (Int.lor x y) = BitVec.ofInt w x ||| BitVec.ofInt w y := by
  ext i hi
  simp only [BitVec.getElem_or, getElem_ofInt, Int.testBit_lor]

theorem ofInt_xor {w : Nat} (x y : ℤ) :
    BitVec.ofInt w (Int.xor x y) = BitVec.ofInt w x ^^^ BitVec.ofInt w y := by
  ext i hi
  simp only [BitVec.getElem_xor, getElem_ofInt, Int.testBit_lxor]

theorem ofInt_two_pow {w : Nat} (n : Nat) : BitVec.ofInt w (2 ^ n) = BitVec.twoPow w n := by
  refine BitVec.eq_of_toNat_eq ?_
  rw [show (2 : ℤ) ^ n = ((2 ^ n : Nat) : ℤ) from (Nat.cast_pow 2 n).symm, BitVec.ofInt_natCast,
    BitVec.toNat_ofNat, BitVec.toNat_twoPow]

theorem ofInt_shiftLeft {w : Nat} (x : ℤ) (n : Nat) :
    BitVec.ofInt w (x * 2 ^ n) = BitVec.ofInt w x <<< n := by
  rw [BitVec.ofInt_mul, ofInt_two_pow, BitVec.mul_twoPow_eq_shiftLeft]

theorem ofInt_eq_intMin_iff {k : Nat} {x : ℤ} (h : InRange k x) :
    BitVec.ofInt (k + 1) x = BitVec.intMin (k + 1) ↔ x = -2 ^ k := by
  rw [← BitVec.toInt_inj, toInt_ofInt h, BitVec.toInt_intMin_of_pos k.succ_pos]
  rfl

/-- The magnitude of an integer in range is in range, but for that of the least one. -/
theorem ofInt_abs {k : Nat} {x : ℤ} (h : InRange k x) :
    BitVec.ofInt (k + 1) (if x = -2 ^ k then x else |x|) = (BitVec.ofInt (k + 1) x).abs := by
  refine BitVec.eq_of_toInt_eq ?_
  rw [BitVec.toInt_abs_eq_natAbs]
  by_cases hx : x = -2 ^ k
  · have hmin := (ofInt_eq_intMin_iff h).mpr hx
    rw [if_pos hx, if_pos hmin, hmin]
  · rw [if_neg hx, if_neg (mt (ofInt_eq_intMin_iff h).mp hx), toInt_ofInt h, ← Int.abs_eq_natAbs]
    have hlow : -2 ^ k ≤ |x| := le_trans (by simp) (abs_nonneg x)
    exact toInt_ofInt ⟨hlow, abs_lt.mpr ⟨lt_of_le_of_ne h.1 (Ne.symm hx), h.2⟩⟩

theorem toInt_ushiftRight {w : Nat} (x : ℤ) (n : Nat) :
    (BitVec.ofInt w x >>> n).toInt = (x % 2 ^ w / 2 ^ n).bmod (2 ^ w) := by
  have hnonneg : 0 ≤ x % 2 ^ w := Int.emod_nonneg x (by positivity)
  rw [BitVec.toInt_eq_toNat_bmod, BitVec.toNat_ushiftRight, BitVec.toNat_ofInt,
    Nat.shiftRight_eq_div_pow]
  push_cast
  rw [Int.toNat_of_nonneg hnonneg]

theorem distance_ofInt (y : ℤ) : Operation.distance (BitVec.ofInt 32 y) = (y % 32).toNat := by
  rw [Operation.distance, BitVec.toNat_ofInt]
  omega

/-! ### Operands -/

/-- An integer of 128 bits, brought between `-2 ^ 31` and `2 ^ 31` by a multiple of
    `2 ^ 32`. -/
def ofInteger? (n : ℤ) : Option ℤ :=
  if -2 ^ 127 ≤ n ∧ n < 2 ^ 127 then some (n.bmod (2 ^ 32)) else none

theorem inRange_of_ofInteger? {n x : ℤ} (h : ofInteger? n = some x) : InRange 31 x := by
  unfold ofInteger? at h
  split at h
  next =>
    cases h
    exact ⟨Int.le_bmod (by decide), Int.bmod_lt (by decide)⟩
  next => cases h

theorem ofInt_bmod (n : ℤ) : BitVec.ofInt 32 (n.bmod (2 ^ 32)) = BitVec.ofInt 32 n := by
  refine BitVec.eq_of_toInt_eq ?_
  rw [BitVec.toInt_ofInt, BitVec.toInt_ofInt, Int.bmod_bmod]

theorem wideBits?_eq (n : ℤ) :
    Value.wideBits? n = (ofInteger? n).map (BitVec.ofInt 32) := by
  have hmin : (BitVec.intMin 128).toInt = -2 ^ 127 := BitVec.toInt_intMin_of_pos (by decide)
  have hmax : (BitVec.intMax 128).toInt = 2 ^ 127 - 1 := by decide
  have hfits : Value.fitsWide n = true ↔ -2 ^ 127 ≤ n ∧ n < 2 ^ 127 := by
    rw [Value.fitsWide, Bool.and_eq_true, decide_eq_true_eq, decide_eq_true_eq, hmin, hmax]
    omega
  simp only [Value.wideBits?, hfits, ofInteger?]
  split
  · rw [Option.map_some, ofInt_bmod]
  · rfl

end Word

namespace Value

/-- The integer that a bitwise operator reads an operand as: its number, rounded
    toward zero and brought between `-2 ^ 31` and `2 ^ 31`. -/
def word? (v : Value) : Option ℤ :=
  (v.number?.map Rounding.down.ofRat).bind Word.ofInteger?

theorem inRange_of_word? {v : Value} {x : ℤ} (h : v.word? = some x) : Word.InRange 31 x := by
  obtain ⟨n, -, hn⟩ := Option.bind_eq_some_iff.mp h
  exact Word.inRange_of_ofInteger? hn

/-- A bitwise operator sees the bits of the integer that it reads an operand as. -/
theorem bits?_eq (v : Value) : v.bits? = v.word?.map (BitVec.ofInt 32) := by
  have hdecimal (d : Decimal) : wideBits? d.truncate =
      (Word.ofInteger? (Rounding.down.ofRat d.toRat)).map (BitVec.ofInt 32) := by
    rw [Word.wideBits?_eq, d.truncate_eq_ofRat]
  cases v with
  | int n =>
      -- A word of 64 bits is never too wide.
      have hmin := n.le_toInt
      have hmax := n.toInt_lt
      have hfits : Word.ofInteger? n.toInt = some (n.toInt.bmod (2 ^ 32)) :=
        if_pos ⟨by omega, by omega⟩
      rw [bits?, word?, number?, Option.map_some, Rounding.ofRat_down_intCast, Option.bind_some,
        hfits, Option.map_some, Word.ofInt_bmod]
  | decimal d => exact hdecimal d
  | str s =>
      rw [bits?, word?, number?]
      cases Decimal.ofNumberText? s.toList with
      | none => rfl
      | some d => exact hdecimal d
  | _ => rfl

end Value

/-! ### Operators -/

/-- What the bitwise operators do to two integers between `-2 ^ 31` and `2 ^ 31`. The
    distance of a shift is the right one modulo 32, and division rounds down. -/
def Operator.onWords (op : Operator) (x y : ℤ) : ℤ :=
  let distance := (y % 32).toNat
  match op with
  | bitAnd => Int.land x y
  | bitOr => Int.lor x y
  | bitXor => Int.xor x y
  | shl => (x * 2 ^ distance).bmod (2 ^ 32)
  | ushl => ((if x = -2 ^ 31 then x else |x|) * 2 ^ distance).bmod (2 ^ 32)
  | shr => x / 2 ^ distance
  | ushr => (x % 2 ^ 32 / 2 ^ distance).bmod (2 ^ 32)
  | _ => 0

/-- What has to be shown of an operation on bits: on operands that are read as
    integers it yields an integer in range, which is a function of the two, and other
    operands it hands back. -/
theorem Word.onBits_eq {operate : BitVec 32 → BitVec 32 → BitVec 32} {f : ℤ → ℤ → ℤ}
    (hf : ∀ x y, InRange 31 x → InRange 31 y →
      (operate (BitVec.ofInt 32 x) (BitVec.ofInt 32 y)).toInt = f x y) (a b : Value) :
    (∀ x y, a.word? = some x → b.word? = some y →
      ∃ n : Int64, Operation.onBits operate a b = .push (.int n) ∧ n.toInt = f x y ∧
        -2 ^ 31 ≤ n.toInt ∧ n.toInt < 2 ^ 31) ∧
      (a.word? = none ∨ b.word? = none → Operation.onBits operate a b = .cast a b) := by
  unfold Operation.onBits
  rw [a.bits?_eq, b.bits?_eq]
  constructor
  · intro x y hx hy
    rw [hx, hy, Option.map_some, Option.map_some]
    have hresult := hf x y (Value.inRange_of_word? hx) (Value.inRange_of_word? hy)
    -- The word is named, since its bounds do not depend on how it was made.
    obtain ⟨bits, hbits⟩ : ∃ bits, bits = operate (BitVec.ofInt 32 x) (BitVec.ofInt 32 y) :=
      ⟨_, rfl⟩
    have hmin : -2 ^ 31 ≤ bits.toInt := BitVec.le_toInt bits
    have hmax : bits.toInt < 2 ^ 31 := BitVec.toInt_lt
    have hword : (Int64.ofInt bits.toInt).toInt = bits.toInt :=
      Int64.toInt_ofInt_of_le (by omega) (by omega)
    rw [← hbits] at hresult
    refine ⟨Int64.ofInt bits.toInt, ?_, hword.trans hresult, ?_, ?_⟩
    · rw [hbits]
      rfl
    · rwa [hword]
    · rwa [hword]
  · rintro (h | h)
    · rw [h, Option.map_none]
    · rw [h, Option.map_none]
      cases a.word? <;> rfl

namespace Operator

/-- The bitwise operators yield integers between `-2 ^ 31` and `2 ^ 31`, which depend on
    nothing but the integers that the operands are read as. Operands of which one is
    not read as an integer are handed back. -/
theorem apply_bitwise {op : Operator}
    (hop : op ∈ [bitAnd, bitOr, bitXor, shl, ushl, shr, ushr]) (a b : Value)
    (rounding : Rounding) :
    (∀ x y, a.word? = some x → b.word? = some y →
      ∃ n : Int64, op.apply a b rounding = .push (.int n) ∧ n.toInt = op.onWords x y ∧
        -2 ^ 31 ≤ n.toInt ∧ n.toInt < 2 ^ 31) ∧
      (a.word? = none ∨ b.word? = none → op.apply a b rounding = .cast a b) := by
  simp only [List.mem_cons, List.not_mem_nil, or_false] at hop
  -- Each case is one equation between integers in range.
  rcases hop with rfl | rfl | rfl | rfl | rfl | rfl | rfl <;>
    refine Word.onBits_eq (fun x y hx hy => ?_) a b
  · rw [← Word.ofInt_land]
    exact Word.toInt_ofInt (hx.land hy)
  · rw [← Word.ofInt_lor]
    exact Word.toInt_ofInt (hx.lor hy)
  · rw [← Word.ofInt_xor]
    exact Word.toInt_ofInt (hx.xor hy)
  · rw [Word.distance_ofInt, ← Word.ofInt_shiftLeft]
    exact BitVec.toInt_ofInt _
  · rw [Word.distance_ofInt, ← Word.ofInt_abs hx, ← Word.ofInt_shiftLeft]
    exact BitVec.toInt_ofInt _
  · rw [Word.distance_ofInt, BitVec.toInt_sshiftRight, Word.toInt_ofInt hx]
    exact Int.shiftRight_eq_div_pow _ _
  · rw [Word.distance_ofInt]
    exact Word.toInt_ushiftRight _ _

/-- A negative fraction in a text, shifted by more than 32, and a number that is too
    large. -/
theorem apply_bitwise_fraction :
    ushl ∈ [bitAnd, bitOr, bitXor, shl, ushl, shr, ushr] ∧
      (Value.str "-4294967298.75").word? = some (-2) ∧ (Value.int 33).word? = some 33 ∧
      (∃ n : Int64, ushl.apply (.str "-4294967298.75") (.int 33) .halfDown = .push (.int n) ∧
        n.toInt = 4) ∧
      (Value.decimal ⟨1, -39⟩).word? = none ∧
      ushl.apply (.int 33) (.decimal ⟨1, -39⟩) .halfDown =
        .cast (.int 33) (.decimal ⟨1, -39⟩) := by
  have hop : ushl ∈ [bitAnd, bitOr, bitXor, shl, ushl, shr, ushr] := by decide
  have hleft : (Value.str "-4294967298.75").word? = some (-2) := by decide +kernel
  have hright : (Value.int 33).word? = some 33 := by decide +kernel
  have hnone : (Value.decimal ⟨1, -39⟩).word? = none := by decide +kernel
  obtain ⟨n, happly, hn, -, -⟩ := (apply_bitwise hop _ _ .halfDown).1 _ _ hleft hright
  exact ⟨hop, hleft, hright, ⟨n, happly, hn⟩, hnone,
    (apply_bitwise hop _ _ .halfDown).2 (.inr hnone)⟩

end Operator

end Reckon
