import TextSearch.Attribute.Raw
import TextSearch.Index.Basic
import TextSearch.Token.Segmenter

/-!
# Building

A builder turns rows into documents, one after the other. The first row that is taken must have
every column of the schema; later rows may lack some. A row that is refused leaves nothing behind.
-/

namespace TextSearch

/-- The tokens of each text field of a row. Fields that are missing or cannot be cut have none. -/
def Row.fieldTokens (schema : Schema) (segmenter : Segmenter) (row : Row) :
    List (UInt8 × List Token) :=
  schema.fields.filterMap fun field =>
    match (row.text? field.2).map segmenter with
    | some (.ok tokens) => some (field.1, tokens)
    | _ => none

/-- The positions of one term in a document, each cut to a byte, by field. -/
abbrev FieldPositions := Multimap UInt8 UInt8

abbrev DocumentHits := Std.ExtTreeMap Term FieldPositions

namespace DocumentHits

def noteToken (field : UInt8) (hits : DocumentHits) (token : Token) : DocumentHits :=
  hits.alter (Term.ofText token.text) fun known =>
    some ((known.getD Multimap.empty).add field token.position.toUInt8)

def noteField (hits : DocumentHits) (field : UInt8 × List Token) : DocumentHits :=
  field.2.foldl (noteToken field.1) hits

def ofFields (fields : List (UInt8 × List Token)) : DocumentHits := fields.foldl noteField ∅

end DocumentHits

/-- The field hits for some positions, in ascending order of the fields. -/
def FieldPositions.hits (positions : FieldPositions) : List FieldHit :=
  positions.entries.map fun entry => ⟨entry.1, entry.2⟩

/-- The terms of a document in ascending order, each with its posting. -/
def documentPostings (ordinal : Ordinal) (fields : List (UInt8 × List Token)) :
    List (Term × Posting) :=
  (DocumentHits.ofFields fields).toList.map fun entry =>
    (entry.1, Posting.pack ordinal (FieldPositions.hits entry.2))

/-- The ordinal of the next document after `count` others. -/
def nextOrdinal (count : Nat) : Except SearchError Ordinal :=
  if count < UInt32.size then .ok (UInt32.ofNat count) else .error (.tooManyDocuments count)

def Schema.checkColumns (schema : Schema) (present : List String) : Except SearchError Unit :=
  match schema.columns.find? fun column => !present.contains column with
  | some column => .error (.unknownColumn column)
  | none => .ok ()

/-- An index in the making. -/
structure Builder where
  schema : Schema
  segmenter : Segmenter
  index : Index
  /-- Whether some row had all columns. -/
  checked : Bool

namespace Builder

/-- A builder without documents. -/
def new (schema : Schema) (segmenter : Segmenter) : Builder where
  schema := schema
  segmenter := segmenter
  index := { attributes := AttributeStore.ofSchema schema }
  checked := false

def documentCount (b : Builder) : Nat := b.index.documentCount

def insert (b : Builder) (ordinal : Ordinal) (row : Row) : Builder :=
  let fields := row.fieldTokens b.schema b.segmenter
  { b with
    index :=
      { postings := (documentPostings ordinal fields).foldl (fun m entry => m.add entry.1 entry.2)
          b.index.postings
        attributes := (b.index.attributes.push (row.values b.schema)).1 } }

/-- Checks the columns of a row unless some row had all of them. -/
def checkRow (b : Builder) (row : Row) : Except SearchError Builder :=
  if b.checked then .ok b
  else
    match b.schema.checkColumns row.columns with
    | .error e => .error e
    | .ok () => .ok { b with checked := true }

def addRow (b : Builder) (row : Row) : Builder × Except SearchError Ordinal :=
  match b.checkRow row with
  | .error e => (b, .error e)
  | .ok b =>
    match nextOrdinal b.documentCount with
    | .error e => (b, .error e)
    | .ok ordinal => (b.insert ordinal row, .ok ordinal)

/-- Adds all rows of a source and tells how many. The first error ends it. -/
def addSource (b : Builder) : RowSource → Builder × Except SearchError Nat
  | [] => (b, .ok 0)
  | .error e :: _ => (b, .error e)
  | .ok row :: rest =>
    match b.addRow row with
    | (b, .error e) => (b, .error e)
    | (b, .ok _) =>
      let (b, count) := b.addSource rest
      (b, count.map (· + 1))

def finish (b : Builder) : Index := b.index

end Builder

def buildIndex (schema : Schema) (segmenter : Segmenter) (source : RowSource) :
    Except SearchError Index :=
  let (b, count) := (Builder.new schema segmenter).addSource source
  count.map fun _ => b.finish

end TextSearch
