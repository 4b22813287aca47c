import TextSearch.Attribute.Kind

/-!
# Schemas

A schema names the columns of the rows that are indexed: attributes of each kind, and texts.
-/

namespace TextSearch

/-- The columns to index. The place of a name among the texts is the number of that field. -/
structure Schema where
  unsigned : List String := []
  float : List String := []
  multi : List String := []
  string : List String := []
  text : List String := []
  deriving DecidableEq, Repr, Inhabited

namespace Schema

def attributes (s : Schema) : Kind → List String
  | .unsigned => s.unsigned
  | .float => s.float
  | .multi => s.multi
  | .string => s.string

def columns (s : Schema) : List String := Kind.all.flatMap s.attributes ++ s.text

/-- The text fields with their numbers. There is room for 256 of them. -/
def fields (s : Schema) : List (UInt8 × String) :=
  (s.text.take 256).zipIdx.map fun entry => (UInt8.ofNat entry.2, entry.1)

end Schema

end TextSearch
