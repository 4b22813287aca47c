import TextSearch.Attribute.Store
import TextSearch.Text.Pieces

/-!
# Filters

A filter gives the allowed values of some attributes. It is written as `name:v1,v2;name2:v3`; pieces
of another form are passed over. Names are looked up once for all documents, and a name that no
attribute has restricts nothing.
-/

namespace TextSearch

/-- Adds allowed values to those of a name. The names are in ascending order. -/
def insertAllowed (name : String) (values : List String) :
    List (String × List String) → List (String × List String)
  | [] => [(name, values)]
  | entry :: rest =>
    if name = entry.1 then (name, entry.2 ++ values) :: rest
    else if name < entry.1 then (name, values) :: entry :: rest
    else entry :: insertAllowed name values rest

/-- Attribute names with the values allowed for them, in the order of the names. -/
structure Filter where
  entries : List (String × List String) := []
  deriving DecidableEq, Repr

namespace Filter

def empty : Filter := {}

def allow (f : Filter) (name : String) (values : List String) : Filter :=
  ⟨insertAllowed name values f.entries⟩

/-- The name and the values in a piece `name:v1,v2`. -/
def piece? (piece : List Char) : Option (String × List String) :=
  match Text.pieces ':' piece with
  | [name, values] =>
    let name := Unicode.trimBlanks name
    let values := Text.trimmedPieces ',' values
    if name.isEmpty || values.isEmpty then none
    else some (String.ofList name, values.map String.ofList)
  | _ => none

/-- The names and values in all pieces of a text that have the right form. -/
def piecesOf (text : String) : List (String × List String) :=
  (Text.pieces ';' text.toList).filterMap piece?

/-- Allows what a text says, and tells how many of its pieces were kept. -/
def merge (f : Filter) (text : String) : Filter × Nat :=
  let kept := piecesOf text
  (kept.foldl (fun f entry => f.allow entry.1 entry.2) f, kept.length)

def parse (text : String) : Filter := (empty.merge text).1

def get? (f : Filter) (name : String) : Option (List String) :=
  (f.entries.find? fun entry => entry.1 = name).map Prod.snd

end Filter

/-- Allowed values of the attribute at a place. -/
structure Clause where
  kind : Kind
  offset : Nat
  allowed : List String
  deriving DecidableEq, Repr

def Clause.admits (c : Clause) (d : Document) : Bool :=
  (d.values.text? c.kind c.offset).any fun value => c.allowed.contains value

def Filter.resolve (f : Filter) (attributes : AttributeStore) : List Clause :=
  f.entries.filterMap fun entry =>
    (attributes.resolve entry.1).map fun place => ⟨place.1, place.2, entry.2⟩

def admitsAll (clauses : List Clause) (d : Document) : Bool := clauses.all fun c => c.admits d

end TextSearch
