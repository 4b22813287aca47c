import TextSearch.Decimal.Numeral
import TextSearch.Error
import TextSearch.Unicode.Blank

/-!
# Segmenters

A segmenter cuts a text into tokens or refuses it. Neither the builder nor the searcher cuts texts
in any other way.
-/

namespace TextSearch

/-- A token and its place in the text. -/
structure Token where
  text : String
  position : UInt32
  deriving DecidableEq, Repr

abbrev Segmenter := String → Except SearchError (List Token)

namespace Segmenter

def countedWords (s : String) : List Token :=
  (Unicode.splitBlanks s).zipIdx.map fun entry => ⟨entry.1, UInt32.ofNat entry.2⟩

def blanks : Segmenter := fun s => .ok (countedWords s)

/-- The number that a text consists of, with or without a plus sign, if 32 bits hold it. -/
def position? (cs : List Char) : Option UInt32 :=
  let digits := Decimal.dropPlus cs
  let n := Decimal.digitsValue 0 digits
  if !digits.isEmpty && digits.all Decimal.isDigit && n < UInt32.size then some (UInt32.ofNat n)
  else none

/-- The token that a word spells: `text@position`, cut at the last `@`, has the position it names. -/
def annotated (token : Token) : Token :=
  let reversed := token.text.toList.reverse
  match reversed.dropWhile (· ≠ '@') with
  | [] => token
  | _ :: text =>
    match position? (reversed.takeWhile (· ≠ '@')).reverse with
    | some position => ⟨String.ofList text.reverse, position⟩
    | none => token

def annotatedBlanks : Segmenter := fun s => .ok ((countedWords s).map annotated)

end Segmenter

end TextSearch
