import TextSearch.Decimal.Binary

/-!
# Shortest digits

A double is written with the fewest digits that read back as the same double; among those the ones
nearest to its value. The digits are found on grids of decimal numbers: the coarsest grid with a
point that rounds to the double gives them.
-/

namespace TextSearch.Decimal

/-- A positive value and the values that round to it, in units of `1 / 2 ^ (lowest + 2)`: the value,
how far the interval reaches below and above it, and whether its ends belong to it. -/
structure Interval where
  value : Nat
  below : Nat
  above : Nat
  closed : Bool

/-- The interval of a finite positive value. Below a power of two the values lie closer together. -/
def BinaryFormat.interval (f : BinaryFormat) (bits : Nat) : Interval :=
  let m := f.significand bits
  let unit := twoTo (f.scale bits)
  { value := 4 * m * unit
    below := if m == f.step && 0 < f.scale bits then unit else 2 * unit
    above := 2 * unit
    closed := m % 2 == 0 }

/-- Whether a quotient lies in the interval, where values are over `den`. -/
def Interval.holds (i : Interval) (scaled unit : Nat) : Bool :=
  let low := (i.value - i.below) * unit
  let high := (i.value + i.above) * unit
  if i.closed then low ≤ scaled && scaled ≤ high else low < scaled && scaled < high

/-- The decimal number `digits * 10 ^ exponent`. -/
structure Digits where
  digits : Nat
  exponent : Int
  deriving DecidableEq, Repr

/-- The nearer of the two neighbours of a value on the grid of multiples of `10 ^ exponent`, among
those that round to it. -/
def Interval.onGrid? (i : Interval) (den : Nat) (exponent : Int) : Option Digits :=
  let num := if exponent < 0 then tenTo (-exponent).toNat else 1
  let grid := den * if exponent < 0 then 1 else tenTo exponent.toNat
  let lower := i.value * num / grid
  let inLower := i.holds (lower * grid) num
  let inUpper := i.holds ((lower + 1) * grid) num
  let upperIsNearer := (lower + 1) * grid - i.value * num < i.value * num - lower * grid
  let tie := (lower + 1) * grid - i.value * num == i.value * num - lower * grid
  if inLower && inUpper then
    some ⟨if upperIsNearer || (tie && lower % 2 == 1) then lower + 1 else lower, exponent⟩
  else if inLower then some ⟨lower, exponent⟩
  else if inUpper then some ⟨lower + 1, exponent⟩
  else none

/-- The first grid with a point that rounds to the value, going to finer ones. -/
def Interval.search (i : Interval) (den : Nat) : Nat → Int → Digits
  | 0, exponent => ⟨i.value, exponent⟩
  | fuel + 1, exponent =>
    match i.onGrid? den exponent with
    | some digits => if digits.digits = 0 then i.search den fuel (exponent - 1) else digits
    | none => i.search den fuel (exponent - 1)

/-- A decimal number without zeros at the end of its digits. -/
def Digits.stripped : Nat → Digits → Digits
  | 0, d => d
  | fuel + 1, d =>
    if d.digits % 10 == 0 && d.digits != 0 then
      Digits.stripped fuel ⟨d.digits / 10, d.exponent + 1⟩
    else d

/-- The shortest digits of a finite positive value. The search starts at a grid that is too coarse
and goes on for as many digits as any value needs. -/
def BinaryFormat.shortest (f : BinaryFormat) (bits : Nat) : Digits :=
  let i := f.interval bits
  let den := twoTo (f.lowest + 2)
  let size : Int := ((i.value.log2 : Nat) : Int) - ((f.lowest + 2 : Nat) : Int)
  let top : Int := size * 30103 / 100000 + 2
  Digits.stripped 20 (i.search den 25 top)

/-- How numbers with an exponent are told from those without one. -/
structure PointStyle where
  /-- The least exponent of the first digit that is written out. -/
  lowest : Int
  /-- The largest exponent of the first digit that is written out. -/
  highest : Int

/-- A decimal number that is not zero. Small and large ones are written with an exponent. -/
def Digits.text (style : PointStyle) (d : Digits) : String :=
  let digits := (toString d.digits).toList
  let lead : Int := d.exponent + (digits.length : Int) - 1
  if style.lowest ≤ lead && lead ≤ style.highest then
    if 0 ≤ d.exponent then
      String.ofList (digits ++ List.replicate d.exponent.toNat '0') ++ ".0"
    else if 0 ≤ lead then
      let whole := lead.toNat + 1
      String.ofList (digits.take whole) ++ "." ++ String.ofList (digits.drop whole)
    else "0." ++ String.ofList (List.replicate (-lead - 1).toNat '0' ++ digits)
  else
    let fraction := digits.drop 1
    let mark := if lead < 0 then "e-" else "e+"
    String.ofList (digits.take 1) ++ (if fraction.isEmpty then "" else "." ++ String.ofList fraction)
      ++ mark ++ toString lead.natAbs

/-- Doubles are written out from `1e-5` up to below `1e16`. -/
def doubleStyle : PointStyle := ⟨-5, 15⟩

/-- The text of a finite double. -/
def Double.text (x : Double) : String :=
  let sign := if x.isNegative then "-" else ""
  if x.magnitude = 0 then sign ++ "0.0"
  else sign ++ (binary64.shortest x.magnitude).text doubleStyle

end TextSearch.Decimal
