import TextSearch.Decimal.Binary

/-!
# Fixed places

A float is written with a fixed number of digits after the point. The digits are those of its exact
value, rounded to the nearest, and a tie goes to the even digit.
-/

namespace TextSearch.Decimal

/-- A number as digits, with zeros in front up to a width. -/
def paddedDigits (width n : Nat) : List Char :=
  let digits := (toString n).toList
  List.replicate (width - digits.length) '0' ++ digits

/-- A whole number of units of `10 ^ -places`, with a point before the last `places` digits. -/
def fixedPoint (places units : Nat) : String :=
  let scale := tenTo places
  toString (units / scale) ++ "." ++ String.ofList (paddedDigits places (units % scale))

/-- A float with a fixed number of places. -/
def Single.toFixed (places : Nat) (x : Single) : String :=
  let sign := if x.isNegative then "-" else ""
  if binary32.infinity < x.magnitude then "NaN"
  else if x.magnitude = binary32.infinity then sign ++ "inf"
  else
    let num := binary32.numerator x.magnitude * tenTo places
    sign ++ fixedPoint places (roundDiv num (twoTo binary32.lowest))

end TextSearch.Decimal
