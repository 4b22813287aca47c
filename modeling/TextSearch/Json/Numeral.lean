import TextSearch.Decimal.Numeral
import TextSearch.Json.Value

/-!
# JSON numerals

A numeral without a fraction and an exponent is a whole number if 64 bits hold it. Any other one is
a double: as many of its first digits as 64 bits hold, scaled by powers of ten of at most `1e308`.
Each of these steps is rounded by itself.
-/

namespace TextSearch.Json

open Decimal

def largestPower : Nat := 308

def powerOfTen (n : Nat) : Nat := binary64.round (tenTo n) 1

def multiply (a b : Nat) : Nat :=
  binary64.round (binary64.numerator a * binary64.numerator b) (twoTo (2 * binary64.lowest))

def divide (a b : Nat) : Nat := binary64.round (binary64.numerator a) (binary64.numerator b)

/-- A finite value times a power of ten; none if that is too large. -/
def scaleByTen (value : Nat) (exponent : Int) : Option Nat :=
  if value = 0 then some 0
  else if (largestPower : Int) < exponent then none
  else if 0 ≤ exponent then
    let scaled := multiply value (powerOfTen exponent.toNat)
    if scaled = binary64.infinity then none else some scaled
  else if -(largestPower : Int) ≤ exponent then some (divide value (powerOfTen (-exponent).toNat))
  else scaleByTen (divide value (powerOfTen largestPower)) (exponent + largestPower)
termination_by (-exponent).toNat
decreasing_by
  have hlarge : largestPower = 308 := rfl
  omega

/-- Takes digits into a number as long as 64 bits hold it, and counts the digits left over. -/
def absorbDigits (acc : Nat) : List Char → Nat × Nat
  | [] => (acc, 0)
  | c :: rest =>
    let next := acc * 10 + (c.toNat - '0'.toNat)
    if next < UInt64.size then absorbDigits next rest else (acc, rest.length + 1)

/-- The parts of a numeral: its sign, the digits before the point, those after it if there is one,
and the exponent if there is one. -/
structure NumeralParts where
  negative : Bool
  whole : List Char
  fraction : Option (List Char)
  exponent : Option Int

/-- The double that a numeral denotes; none if it is too large. -/
def NumeralParts.double? (p : NumeralParts) : Option Double :=
  let (head, above) := absorbDigits 0 p.whole
  let fraction := p.fraction.getD []
  let (digits, unused) := absorbDigits head fraction
  let exponent := (above : Int) - ((fraction.length - unused : Nat) : Int) + p.exponent.getD 0
  (scaleByTen (binary64.round digits 1) exponent).map (Double.ofMagnitude p.negative)

/-- The number that a numeral denotes; none if it is too large. -/
def NumeralParts.number? (p : NumeralParts) : Option JsonNumber :=
  let n := digitsValue 0 p.whole
  let isWhole := p.fraction.isNone && p.exponent.isNone
  if isWhole && !p.negative && n < UInt64.size then some (.integer n)
  else if isWhole && p.negative && 0 < n && n ≤ twoTo 63 then some (.integer (-(n : Int)))
  else p.double?.map .double

/-- The digits before the point: a zero alone or digits that do not start with a zero. -/
def wholePart? : List Char → Option (List Char × List Char)
  | '0' :: rest => if (leadingDigits rest).isEmpty then some (['0'], rest) else none
  | cs => if (leadingDigits cs).isEmpty then none else some (leadingDigits cs, afterDigits cs)

def fractionPart? : List Char → Option (Option (List Char) × List Char)
  | '.' :: rest =>
    if (leadingDigits rest).isEmpty then none
    else some (some (leadingDigits rest), afterDigits rest)
  | cs => some (none, cs)

def exponentPart? : List Char → Option (Option Int × List Char)
  | [] => some (none, [])
  | c :: rest =>
    if c == 'e' || c == 'E' then
      let (negative, digits) := takeSign rest
      if (leadingDigits digits).isEmpty then none
      else
        let n : Nat := digitsValue 0 (leadingDigits digits)
        some (some (if negative then -(n : Int) else n), afterDigits digits)
    else some (none, c :: rest)

def numeralParts? (cs : List Char) : Option (NumeralParts × List Char) := do
  let (negative, cs) := match cs with
    | '-' :: rest => (true, rest)
    | _ => (false, cs)
  let (whole, cs) ← wholePart? cs
  let (fraction, cs) ← fractionPart? cs
  let (exponent, cs) ← exponentPart? cs
  return (⟨negative, whole, fraction, exponent⟩, cs)

end TextSearch.Json
