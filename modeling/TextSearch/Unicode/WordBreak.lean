import TextSearch.Unicode.WordBreakRanges

/-!
# Word break classes

The value of the property Word_Break of each character.
-/

namespace TextSearch.Unicode

/-- The classes between which word boundaries are decided. -/
inductive WordBreak where
  | carriageReturn | lineFeed | newline | extend | joiner | format | flag | katakana | hebrewLetter
  | letter | singleQuote | doubleQuote | midBoth | midLetter | midNumber | numeric | connector | space
  | other
  deriving DecidableEq

/-- Classes of the characters that stand alone in theirs, or run through a short range. -/
def WordBreak.ofSign (c : Char) : WordBreak :=
  if c == '\r' then .carriageReturn
  else if c == '\n' then .lineFeed
  else if c == '\'' then .singleQuote
  else if c == '"' then .doubleQuote
  else if c == '\u200d' then .joiner
  else if 0x1F1E6 ≤ c.toNat && c.toNat ≤ 0x1F1FF then .flag
  else .other

/-- The classes kept in tables. -/
def wordBreakTables : List (WordBreak × Ranges) :=
  [(.letter, letterRanges), (.space, spaceRanges), (.numeric, numericRanges),
   (.midLetter, midLetterRanges), (.midNumber, midNumberRanges), (.midBoth, midBothRanges),
   (.connector, connectorRanges), (.newline, newlineRanges), (.extend, extendRanges),
   (.katakana, katakanaRanges), (.hebrewLetter, hebrewLetterRanges), (.format, formatRanges)]

/-- The class of a character. -/
def WordBreak.ofChar (c : Char) : WordBreak :=
  match wordBreakTables.find? fun table => table.2.covers c with
  | some table => table.1
  | none => WordBreak.ofSign c

/-- Marks belong to whatever stands before them. -/
def WordBreak.isMark : WordBreak → Bool
  | .extend | .format | .joiner => true
  | _ => false

/-- Whether a character is a pictograph. -/
def isPictograph (c : Char) : Bool := pictographRanges.covers c

end TextSearch.Unicode
