import TextSearch.Decimal.Binary
import TextSearch.Utf8

/-!
# Numerals

The longest numeral that a text starts with, and the number it denotes. What follows a numeral is
ignored, and a text without one counts as zero.
-/

namespace TextSearch.Decimal

/-- Whether a character is one of the ten digits. -/
def isDigit (c : Char) : Bool := '0' ≤ c && c ≤ '9'

/-- The number that digits denote after those already read. -/
def digitsValue (acc : Nat) : List Char → Nat
  | [] => acc
  | c :: rest => digitsValue (acc * 10 + (c.toNat - '0'.toNat)) rest

/-- The digits a text starts with. -/
def leadingDigits (cs : List Char) : List Char := cs.takeWhile isDigit

/-- What follows the digits a text starts with. -/
def afterDigits (cs : List Char) : List Char := cs.dropWhile isDigit

/-- A text without the plus sign it may start with. -/
def dropPlus : List Char → List Char
  | '+' :: rest => rest
  | cs => cs

/-- Why a text is not read as a word. -/
inductive WordFault where
  | empty
  | noDigit
  | tooLarge
  deriving DecidableEq, Repr

/-- Takes digits into a number that 32 bits must hold after each of them. -/
def wordOfDigits (acc : Nat) : List Char → Except WordFault UInt32
  | [] => .ok (UInt32.ofNat acc)
  | c :: rest =>
    if isDigit c then
      let next := acc * 10 + (c.toNat - '0'.toNat)
      if next < UInt32.size then wordOfDigits next rest else .error .tooLarge
    else .error .noDigit

/-- The word that all of a text spells, with a plus sign or without. -/
def readWord (cs : List Char) : Except WordFault UInt32 :=
  if cs.isEmpty then .error .empty
  else if (dropPlus cs).isEmpty then .error .noDigit
  else wordOfDigits 0 (dropPlus cs)

/-- A decimal numeral: `digits * 10 ^ exponent` with a sign. -/
structure Numeral where
  negative : Bool
  digits : Nat
  exponent : Int
  deriving DecidableEq, Repr

/-- A sign that may be missing, and what follows it. -/
def takeSign : List Char → Bool × List Char
  | '+' :: rest => (false, rest)
  | '-' :: rest => (true, rest)
  | cs => (false, cs)

/-- The digits after a point; none if there is no point. -/
def fractionDigits : List Char → List Char
  | '.' :: rest => leadingDigits rest
  | _ => []

/-- What follows a point and the digits after it. -/
def afterFraction : List Char → List Char
  | '.' :: rest => afterDigits rest
  | cs => cs

/-- The exponent that is all of a text; zero if the text is empty. -/
def exponent? : List Char → Option Int
  | [] => some 0
  | c :: rest =>
    if c == 'e' || c == 'E' then
      let (negative, digits) := takeSign rest
      if digits.isEmpty || !digits.all isDigit then none
      else
        let n : Nat := digitsValue 0 digits
        some (if negative then -(n : Int) else n)
    else none

/-- The numeral that is all of a text. -/
def Numeral.ofText? (cs : List Char) : Option Numeral :=
  let (negative, cs) := takeSign cs
  let whole := leadingDigits cs
  let rest := afterDigits cs
  let fraction := fractionDigits rest
  if whole.isEmpty && fraction.isEmpty then none
  else
    (exponent? (afterFraction rest)).map fun exponent =>
      ⟨negative, digitsValue 0 (whole ++ fraction), exponent - (fraction.length : Int)⟩

/-- The float nearest to a numeral. -/
def Numeral.toSingle (n : Numeral) : Single :=
  Single.ofMagnitude n.negative (binary32.ofDecimal n.digits n.exponent)

/-- The bits of infinity and of what is no number, by their names in any letters. -/
def namedMagnitude? (cs : List Char) : Option Nat :=
  match String.ofList (cs.map Char.toLower) with
  | "inf" => some binary32.infinity
  | "infinity" => some binary32.infinity
  | "nan" => some (binary32.infinity + twoTo (binary32.precision - 2))
  | _ => none

/-- The float that a text spells, as a numeral or by its name with a sign or without. -/
def Single.ofText? (cs : List Char) : Option Single :=
  match Numeral.ofText? cs with
  | some numeral => some numeral.toSingle
  | none =>
    let (negative, name) := takeSign cs
    (namedMagnitude? name).map (Single.ofMagnitude negative)

/-- How many bytes at the front are digits. -/
def digitsLength (bytes : List UInt8) : Nat :=
  (bytes.takeWhile fun b => isDigit (Char.ofUInt8 b)).length

/-- How many bytes the plus sign at the front takes. -/
def plusLength : List UInt8 → Nat
  | [] => 0
  | b :: _ => if Char.ofUInt8 b == '+' then 1 else 0

/-- How many bytes at the front are an unsigned numeral `+? D+`; zero if there is no numeral. -/
def unsignedLength (bytes : List UInt8) : Nat :=
  let plus := plusLength bytes
  let digits := digitsLength (bytes.drop plus)
  if digits = 0 then 0 else plus + digits

/-- The word that a text starts with. Its numeral is cut off and read by itself, and where that fails
the largest word is taken. -/
def unsignedPrefixValue (cs : List Char) : UInt32 :=
  let length := unsignedLength (Utf8.encode (String.ofList cs))
  if length = 0 then 0
  else
    match (Utf8.takeBytes? length cs).map readWord with
    | some (.ok n) => n
    | _ => UInt32.ofNat (UInt32.size - 1)

/-- How many bytes the sign at the front takes. -/
def signLength : List UInt8 → Nat
  | [] => 0
  | b :: _ => if Char.ofUInt8 b == '+' || Char.ofUInt8 b == '-' then 1 else 0

/-- How many bytes the point at the front takes, with the digits behind it. -/
def fractionLength : List UInt8 → Nat
  | [] => 0
  | b :: rest => if Char.ofUInt8 b == '.' then 1 + digitsLength rest else 0

/-- How many bytes the exponent at the front takes. A mark without digits behind it is none. -/
def exponentLength : List UInt8 → Nat
  | [] => 0
  | b :: rest =>
    if Char.ofUInt8 b == 'e' || Char.ofUInt8 b == 'E' then
      let sign := signLength rest
      let digits := digitsLength (rest.drop sign)
      if digits = 0 then 0 else 1 + sign + digits
    else 0

/-- How many bytes at the front are digits with a point or without. A point alone does not count. -/
def decimalLength (bytes : List UInt8) : Nat :=
  let whole := digitsLength bytes
  let fraction := fractionLength (bytes.drop whole)
  if whole = 0 ∧ fraction ≤ 1 then 0 else whole + fraction

/-- How many bytes at the front are a numeral `[+-]? (D+ | D+ . D* | . D+) ([eE] [+-]? D+)?`; zero
if there is no numeral. -/
def numeralLength (bytes : List UInt8) : Nat :=
  let sign := signLength bytes
  let decimal := decimalLength (bytes.drop sign)
  if decimal = 0 then 0
  else
    let stop := sign + decimal
    stop + exponentLength (bytes.drop stop)

/-- The float nearest to the numeral a text starts with. The numeral is cut off and read by
itself. -/
def singlePrefixValue (cs : List Char) : Single :=
  let zero := Single.ofMagnitude false 0
  let length := numeralLength (Utf8.encode (String.ofList cs))
  if length = 0 then zero
  else ((Utf8.takeBytes? length cs).bind Single.ofText?).getD zero

end TextSearch.Decimal
