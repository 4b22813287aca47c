import TextSearch.Decimal.Power

/-!
# Binary floating point

Values of the interchange formats with 32 and 64 bits, without their sign, as numbers
`m * 2 ^ s / 2 ^ lowest`. A quotient is rounded to the nearest of them, and a tie to the even one.
-/

namespace TextSearch.Decimal

/-- The quotient of two numbers, rounded to the nearest whole one; a tie goes to the even one. -/
def roundDiv (num den : Nat) : Nat :=
  let q := num / den
  let r := num % den
  if 2 * r < den then q else if den < 2 * r then q + 1 else q + q % 2

/-- A binary format: how many bits a significand has, and that the least value is
`1 / 2 ^ lowest`. -/
structure BinaryFormat where
  precision : Nat
  lowest : Nat
  /-- The bits of infinity. -/
  infinity : Nat

/-- The format with 32 bits. -/
def binary32 : BinaryFormat := ⟨24, 149, 0x7F800000⟩

/-- The format with 64 bits. -/
def binary64 : BinaryFormat := ⟨53, 1074, 0x7FF0000000000000⟩

namespace BinaryFormat

/-- How many bit patterns lie between neighbouring powers of two. -/
def step (f : BinaryFormat) : Nat := twoTo (f.precision - 1)

/-- The bits of the value nearest to a quotient. -/
def round (f : BinaryFormat) (num den : Nat) : Nat :=
  let scaled := num * twoTo f.lowest
  let s := (scaled / den).log2 + 1 - f.precision
  min f.infinity (s * f.step + roundDiv scaled (den * twoTo s))

/-- The significand of a finite value. -/
def significand (f : BinaryFormat) (bits : Nat) : Nat :=
  if bits < f.step then bits else bits % f.step + f.step

/-- The power of two that the significand of a finite value is multiplied with. -/
def scale (f : BinaryFormat) (bits : Nat) : Nat := bits / f.step - 1

/-- The numerator of a finite value over the denominator `2 ^ lowest`. -/
def numerator (f : BinaryFormat) (bits : Nat) : Nat := f.significand bits * twoTo (f.scale bits)

/-- The bits of the value nearest to `digits * 10 ^ exponent`. Powers of ten that are out of the
format's range for certain are not computed. -/
def ofDecimal (f : BinaryFormat) (digits : Nat) (exponent : Int) : Nat :=
  if digits = 0 then 0
  else if 400 ≤ exponent then f.infinity
  else if exponent + ((digits.log2 + 1 : Nat) : Int) ≤ -400 then 0
  else if 0 ≤ exponent then f.round (digits * tenTo exponent.toNat) 1
  else f.round digits (tenTo (-exponent).toNat)

end BinaryFormat

/-- A float of 32 bits. -/
structure Single where
  bits : UInt32
  deriving DecidableEq, Repr

/-- Whether the sign bit is set. -/
def Single.isNegative (x : Single) : Bool := 0x80000000 ≤ x.bits

/-- The bits without the sign. -/
def Single.magnitude (x : Single) : Nat := x.bits.toNat % 0x80000000

/-- The float with the given sign and the given other bits. -/
def Single.ofMagnitude (negative : Bool) (magnitude : Nat) : Single :=
  ⟨UInt32.ofNat (if negative then magnitude + 0x80000000 else magnitude)⟩

/-- A float of 64 bits. -/
structure Double where
  bits : UInt64
  deriving DecidableEq, Repr

/-- Whether the sign bit is set. -/
def Double.isNegative (x : Double) : Bool := 0x8000000000000000 ≤ x.bits

/-- The bits without the sign. -/
def Double.magnitude (x : Double) : Nat := x.bits.toNat % 0x8000000000000000

/-- The float with the given sign and the given other bits. -/
def Double.ofMagnitude (negative : Bool) (magnitude : Nat) : Double :=
  ⟨UInt64.ofNat (if negative then magnitude + 0x8000000000000000 else magnitude)⟩

end TextSearch.Decimal
