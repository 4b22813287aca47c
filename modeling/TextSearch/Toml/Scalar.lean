import TextSearch.Decimal.Numeral
import TextSearch.Text.Pieces
import TextSearch.Toml.Token
import TextSearch.Toml.Value

/-!
# Numbers and dates in TOML

A value that is not quoted starts with a word. A number or a date may go on behind it, since points,
colons and plus signs are tokens of their own.
-/

namespace TextSearch.Toml

/-- The digits at the front, and what follows them. A single underscore may stand between two
digits. -/
def groupedDigits? (base : Nat) (cs : List Char) : Option (List Char × List Char) :=
  let run := cs.takeWhile fun c => Text.isDigitOf base c || c == '_'
  if (Text.pieces '_' run).any List.isEmpty then none
  else some (run.filter (· != '_'), cs.drop run.length)

/-- The decimal digits at the front and what follows them. They do not start with a zero unless there
is one digit only. -/
def wholeDigits? (cs : List Char) : Option (List Char × List Char) :=
  match groupedDigits? 10 cs with
  | some ('0' :: _ :: _, _) => none
  | found => found

def takeMinus : List Char → Bool × List Char
  | '-' :: rest => (true, rest)
  | cs => (false, cs)

/-- One more than the largest integer that 64 bits with a sign hold. -/
def integerBound : Nat := Decimal.twoTo 63

/-- The integer that a word spells, if 64 bits hold it. -/
def integer? (negative : Bool) (base : Nat) (digits : List Char) : Option Value :=
  let n : Int := Text.numberOf base digits
  let n := if negative then -n else n
  if -(integerBound : Int) ≤ n && n < integerBound then some (.integer n) else none

def basedInteger? (base : Nat) (cs : List Char) : Option Value :=
  match groupedDigits? base cs with
  | some (digits, []) => integer? false base digits
  | _ => none

def decimalInteger? (word : List Char) : Option Value :=
  let (negative, cs) := takeMinus word
  match wholeDigits? cs with
  | some (digits, []) => integer? negative 10 digits
  | _ => none

/-- The exponent behind its mark. A plus sign separates it from the word with the mark. -/
def exponent? (cs : List Char) (tokens : List Token) : Option (Int × List Token) :=
  match cs, tokens with
  | [], .plus :: .word cs :: rest =>
    match groupedDigits? 10 cs with
    | some (digits, []) => some ((Decimal.digitsValue 0 digits : Nat), rest)
    | _ => none
  | cs, rest =>
    let (negative, cs) := takeMinus cs
    match groupedDigits? 10 cs with
    | some (digits, []) =>
      let n : Int := (Decimal.digitsValue 0 digits : Nat)
      some (if negative then -n else n, rest)
    | _ => none

/-- The exponent that the rest of a word starts; zero if nothing is left of the word. -/
def optionalExponent? (cs : List Char) (tokens : List Token) : Option (Int × List Token) :=
  match cs with
  | [] => some (0, tokens)
  | c :: cs => if c == 'e' || c == 'E' then exponent? cs tokens else none

/-- The float with some digits, of which the last `places` stand behind the point. It must not be too
large for 64 bits. -/
def finiteFloat? (digits : List Char) (places : Nat) (exponent : Int) : Option Value :=
  let bits := Decimal.binary64.ofDecimal (Decimal.digitsValue 0 digits) (exponent - (places : Int))
  if bits < Decimal.binary64.infinity then some .float else none

/-- The float that starts with a word and has a fraction if `fraction` is given. -/
def float? (word : List Char) (fraction : Option (List Char)) (tokens : List Token) :
    Option (Value × List Token) := do
  let (whole, rest) ← wholeDigits? (takeMinus word).2
  let (places, rest) ← match fraction with
    | none => some ([], rest)
    | some cs => if rest.isEmpty then groupedDigits? 10 cs else none
  let (exponent, tokens) ← optionalExponent? rest tokens
  let value ← finiteFloat? (whole ++ places) places.length exponent
  return (value, tokens)

def specialFloats : List (List Char) :=
  ["inf".toList, "-inf".toList, "nan".toList, "-nan".toList]

def number? (word : List Char) (tokens : List Token) : Option (Value × List Token) :=
  match word, tokens with
  | '0' :: 'x' :: cs, rest => (basedInteger? 16 cs).map fun value => (value, rest)
  | '0' :: 'o' :: cs, rest => (basedInteger? 8 cs).map fun value => (value, rest)
  | '0' :: 'b' :: cs, rest => (basedInteger? 2 cs).map fun value => (value, rest)
  | cs, rest =>
    if cs.contains 'e' || cs.contains 'E' then float? cs none rest
    else
      match rest with
      | .period :: .word fraction :: rest => float? cs (some fraction) rest
      | .period :: _ => none
      | rest =>
        if specialFloats.contains cs then some (.float, rest)
        else (decimalInteger? cs).map fun value => (value, rest)

def dropMarked? (mark : Token) : List Token → Option (List Token)
  | [] => some []
  | token :: rest =>
    if token = mark then
      match rest with
      | .word _ :: rest => some rest
      | _ => none
    else some (token :: rest)

/-- What follows the minutes, the seconds and the distance from universal time behind an hour. -/
def dropTime? : List Token → Option (List Token)
  | .word _ :: .colon :: .word _ :: rest => do
    let rest ← dropMarked? .period rest
    let rest ← dropMarked? .plus rest
    dropMarked? .colon rest
  | _ => none

def dropHour : List Token → List Token
  | .blanks [' '] :: .word _ :: rest => rest
  | tokens => tokens

/-- The date or time that starts with a word. Its numbers are not checked. -/
def date? (tokens : List Token) : Option (Value × List Token) :=
  match dropHour tokens with
  | .colon :: rest => (dropTime? rest).map fun rest => (.date, rest)
  | rest => some (.date, rest)

def hasPair (a b : Char) (cs : List Char) : Bool := (cs.zip (cs.drop 1)).contains (a, b)

/-- Whether a word starts a date: it has the mark of a time or a hyphen that belongs to no number. -/
def isDateStart (cs : List Char) : Bool :=
  cs.contains 'T' || cs.contains 't' ||
    ((cs.drop 1).contains '-' && !hasPair 'e' '-' cs && !hasPair 'E' '-' cs)

def wordValue? (word : List Char) (tokens : List Token) : Option (Value × List Token) :=
  if word = "true".toList then some (.boolean true, tokens)
  else if word = "false".toList then some (.boolean false, tokens)
  else if word.head?.any (fun c => c == '-' || Decimal.isDigit c) || specialFloats.contains word then
    if isDateStart word then date? tokens
    else
      match tokens with
      | .colon :: rest => (dropTime? rest).map fun rest => (.date, rest)
      | rest => number? word rest
  else none

end TextSearch.Toml
