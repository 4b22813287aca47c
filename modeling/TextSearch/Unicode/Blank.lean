import TextSearch.Unicode.Ranges

/-!
# Blanks

The property White_Space, and what is done with blanks at the ends of a text and between its words.
-/

namespace TextSearch.Unicode

/-- Code points with the property White_Space. -/
def blankRanges : Ranges :=
  [(0x9, 0xD), (0x20, 0x20), (0x85, 0x85), (0xA0, 0xA0), (0x1680, 0x1680), (0x2000, 0x200A),
   (0x2028, 0x2029), (0x202F, 0x202F), (0x205F, 0x205F), (0x3000, 0x3000)]

/-- Whether a character is a blank. -/
def isBlank (c : Char) : Bool := blankRanges.covers c

/-- The characters without the blanks at either end. -/
def trimBlanks (cs : List Char) : List Char :=
  ((cs.dropWhile isBlank).reverse.dropWhile isBlank).reverse

/-- A text without the blanks at either end. -/
def trim (s : String) : String := String.ofList (trimBlanks s.toList)

/-- Adds a finished word to those after it; no word is empty. -/
def consWord (word : List Char) (words : List (List Char)) : List (List Char) :=
  if word.isEmpty then words else word.reverse :: words

/-- Cuts at blanks. The word being read is held in reverse. -/
def splitBlanksFrom (word : List Char) : List Char → List (List Char)
  | [] => consWord word []
  | c :: rest =>
    if isBlank c then consWord word (splitBlanksFrom [] rest) else splitBlanksFrom (c :: word) rest

/-- The longest stretches without a blank, in order. -/
def splitBlanks (s : String) : List String := (splitBlanksFrom [] s.toList).map String.ofList

end TextSearch.Unicode
