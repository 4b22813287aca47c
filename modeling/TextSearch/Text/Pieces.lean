import TextSearch.Unicode.Blank

/-!
# Pieces

Texts are cut at a separator. There is always one piece more than there are separators.
-/

namespace TextSearch.Text

def consPiece (c : Char) : List (List Char) → List (List Char)
  | [] => [[c]]
  | piece :: pieces => (c :: piece) :: pieces

def pieces (sep : Char) : List Char → List (List Char)
  | [] => [[]]
  | c :: rest => if c = sep then [] :: pieces sep rest else consPiece c (pieces sep rest)

/-- The pieces between separators, without the blanks at their ends and without empty ones. -/
def trimmedPieces (sep : Char) (cs : List Char) : List (List Char) :=
  ((pieces sep cs).map Unicode.trimBlanks).filter fun piece => !piece.isEmpty

def splitOnce (sep : Char) : List Char → Option (List Char × List Char)
  | [] => none
  | c :: rest =>
    if c = sep then some ([], rest) else (splitOnce sep rest).map fun r => (c :: r.1, r.2)

theorem pieces_ne_nil (sep : Char) (cs : List Char) : pieces sep cs ≠ [] := by
  cases cs with
  | nil => simp [pieces]
  | cons c rest =>
    unfold pieces
    split
    · simp
    · cases pieces sep rest <;> simp [consPiece]

end TextSearch.Text
