import TextSearch.Decimal.Fixed
import TextSearch.Error
import TextSearch.Schema
import TextSearch.Term

/-!
# Attribute columns

Each kind of attribute has a column with one record for each document. A record holds the values of
the document in the order of the names of that kind. A multi record holds the values of all multi
attributes one after the other, so its values have no fixed places.
-/

namespace TextSearch

abbrev Column (α : Type) := Array (List α)

/-- The record of a document; empty beyond the last one. -/
def Column.record {α : Type} (column : Column α) (ordinal : Ordinal) : List α :=
  (column[ordinal.toNat]?).getD []

def Column.add {α : Type} (column : Column α) (record : List α) : Column α × Ordinal :=
  let ordinal := UInt32.ofNat column.size
  (Array.push column record, ordinal)

/-- The values of one document. -/
structure Values where
  unsigned : List UInt32 := []
  float : List Decimal.Single := []
  multi : List UInt32 := []
  string : List String := []
  deriving DecidableEq, Repr

def floatText (x : Decimal.Single) : String := x.toFixed 6

def Values.text? (v : Values) (kind : Kind) (offset : Nat) : Option String :=
  match kind with
  | .unsigned => v.unsigned[offset]?.map fun n => toString n.toNat
  | .float => v.float[offset]?.map floatText
  | .multi => v.multi[offset]?.map fun n => toString n.toNat
  | .string => v.string[offset]?

/-- A document and its values. -/
structure Document where
  ordinal : Ordinal
  values : Values
  deriving DecidableEq, Repr

/-- The four columns and the names of the attributes of each kind. -/
structure AttributeStore where
  names : Kind → List String := fun _ => []
  unsigned : Column UInt32 := #[]
  float : Column Decimal.Single := #[]
  multi : Column UInt32 := #[]
  string : Column String := #[]

namespace AttributeStore

def ofSchema (schema : Schema) : AttributeStore := { names := schema.attributes }

def setNames (s : AttributeStore) (kind : Kind) (names : List String) : AttributeStore :=
  { s with names := fun k => if k = kind then names else s.names k }

def columnLength (s : AttributeStore) : Kind → Nat
  | .unsigned => s.unsigned.size
  | .float => s.float.size
  | .multi => s.multi.size
  | .string => s.string.size

/-- How many documents there are. The unsigned column counts. -/
def documentCount (s : AttributeStore) : Nat := s.unsigned.size

def push (s : AttributeStore) (v : Values) : AttributeStore × Ordinal :=
  let (unsigned, ordinal) := s.unsigned.add v.unsigned
  ({ s with
      unsigned := unsigned
      float := (s.float.add v.float).1
      multi := (s.multi.add v.multi).1
      string := (s.string.add v.string).1 },
    ordinal)

def checkLength (kind : Kind) (expected actual : Nat) : Except SearchError Unit :=
  if actual = expected then .ok () else .error (.countMismatch kind expected actual)

def validate (s : AttributeStore) : Except SearchError Nat := do
  Kind.all.forM fun kind => checkLength kind s.documentCount (s.columnLength kind)
  return s.documentCount

/-- Where the values of a name stand: the first kind that has the name, and its first place
there. -/
def resolve (s : AttributeStore) (name : String) : Option (Kind × Nat) :=
  Kind.all.findSome? fun kind => ((s.names kind).idxOf? name).map fun offset => (kind, offset)

def document? (s : AttributeStore) (ordinal : Ordinal) : Option Document :=
  if ordinal.toNat < s.documentCount then
    some ⟨ordinal, {
      unsigned := s.unsigned.record ordinal
      float := s.float.record ordinal
      multi := s.multi.record ordinal
      string := s.string.record ordinal }⟩
  else none

end AttributeStore

end TextSearch
