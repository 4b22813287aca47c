import TextSearch.Query.Search

/-!
# Replies

Every form of a reply gives a summary of the search and then, for each document of the page, its
unsigned and its string attributes by name.
-/

namespace TextSearch.Reply

/-- The value of a projected attribute. -/
inductive FieldValue where
  | number (n : UInt32)
  | text (s : String)
  deriving DecidableEq, Repr

def FieldValue.toText : FieldValue → String
  | .number n => toString n.toNat
  | .text s => s

abbrev Fields := List (String × FieldValue)

/-- The values at the places of names. What has no name or no value is left out. -/
def named {α : Type} (names : List String) (values : List α) (f : α → FieldValue) : Fields :=
  names.zip (values.map f)

theorem getElem?_named {α : Type} {names : List String} {values : List α} {f : α → FieldValue}
    {place : Nat} {field : String × FieldValue} :
    (named names values f)[place]? = some field ↔
      names[place]? = some field.1 ∧ ∃ value, values[place]? = some value ∧ f value = field.2 := by
  rw [named, List.getElem?_zip_eq_some, List.getElem?_map, Option.map_eq_some_iff]

theorem length_named {α : Type} (names : List String) (values : List α) (f : α → FieldValue) :
    (named names values f).length = min names.length values.length := by
  rw [named, List.length_zip, List.length_map]

/-- The fields of a document: its unsigned attributes and then its string attributes. -/
def project (attributes : AttributeStore) (ordinal : Ordinal) : Fields :=
  named (attributes.names .unsigned) (attributes.unsigned.record ordinal) .number ++
    named (attributes.names .string) (attributes.string.record ordinal) .text

/-- The fields stand in the order of the names, each with the value that the record of the document has
at the place of the name. The unsigned ones come first. -/
theorem getElem?_project {attributes : AttributeStore} {ordinal : Ordinal} {place : Nat}
    {field : String × FieldValue} :
    (project attributes ordinal)[place]? = some field ↔
      ((attributes.names .unsigned)[place]? = some field.1 ∧
        ∃ n, (attributes.unsigned.record ordinal)[place]? = some n ∧ .number n = field.2) ∨
      ∃ later, place = min (attributes.names .unsigned).length
            (attributes.unsigned.record ordinal).length + later ∧
        (attributes.names .string)[later]? = some field.1 ∧
        ∃ s, (attributes.string.record ordinal)[later]? = some s ∧ .text s = field.2 := by
  rw [← length_named _ _ FieldValue.number, ← getElem?_named (f := FieldValue.number)]
  simp only [← getElem?_named (f := FieldValue.text), project]
  generalize named _ _ FieldValue.number = unsigned
  rw [List.getElem?_append]
  split
  · rename_i hplace
    refine ⟨.inl, ?_⟩
    rintro (hfield | ⟨later, rfl, -⟩)
    · exact hfield
    · omega
  · rename_i hplace
    rw [List.getElem?_eq_none (Nat.le_of_not_lt hplace)]
    constructor
    · exact fun hfield => .inr ⟨_, by omega, hfield⟩
    · rintro (hnone | ⟨later, rfl, hfield⟩)
      · exact absurd hnone.symm (Option.some_ne_none field)
      · rwa [Nat.add_sub_cancel_left]

def costText (microseconds : Nat) : String := toString microseconds ++ "us"

def summary (r : Response) : List (String × String) :=
  [("query", r.query), ("doc_num", toString r.documents.length),
   ("total_found", toString r.totalFound), ("parse_cost", costText r.costs.parse.toNat),
   ("segment_cost", costText r.costs.segment.toNat), ("search_cost", costText r.costs.search.toNat)]

def assignment (name value : String) : String := name ++ "=" ++ value

def fieldsLine (fields : Fields) : String :=
  String.intercalate "\t" (fields.map fun field => assignment field.1 field.2.toText)

def basicLines (summary : List (String × String)) (packCost : String) (documents : List Fields) :
    List String :=
  summary.map (fun pair => assignment pair.1 pair.2) ++ [assignment "pack_cost" packCost] ++
    documents.map fieldsLine

/-- A reply in plain text: a line for each part of the summary and one for each document. -/
def basic (summary : List (String × String)) (packCost : String) (documents : List Fields) : String :=
  String.join ((basicLines summary packCost documents).map (· ++ "\n"))

end TextSearch.Reply
