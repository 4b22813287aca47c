import TextSearch.Attribute.Store
import TextSearch.Storage.IndexFile

/-!
# Indexes

An index joins the postings of all terms with the attributes of all documents. It can be searched
once it is known that every column speaks of the same documents, that every posting speaks of one of
them, and that the postings of a term never go back to an earlier document.
-/

namespace TextSearch

/-- Postings and attributes as they were built or read. -/
structure Index where
  postings : PostingIndex := Multimap.empty
  attributes : AttributeStore := {}

def Index.documentCount (index : Index) : Nat := index.attributes.documentCount

/-- An index that is ready to be searched. -/
structure LoadedIndex where
  postings : PostingIndex
  attributes : AttributeStore

namespace LoadedIndex

/-- Refuses the first posting of a term that speaks of no document or goes back. `previous` is the
ordinal of the posting before. -/
def checkPostings (count : Nat) (term : Term) (previous : Option Ordinal) :
    PostingList → Except SearchError Unit
  | [] => .ok ()
  | posting :: rest =>
    let ordinal := posting.ordinal
    if count ≤ ordinal.toNat then
      .error (.corruptRecord s!"term '{term.text}' references doc {ordinal.toNat} of {count}")
    else if previous.any (ordinal < ·) then
      .error (.corruptRecord
        s!"postings of term '{term.text}' go backwards at doc {ordinal.toNat}")
    else checkPostings count term (some ordinal) rest

def assemble (postings : PostingIndex) (attributes : AttributeStore) :
    Except SearchError LoadedIndex := do
  let count ← attributes.validate
  postings.entries.forM fun entry => checkPostings count entry.1 none entry.2
  return ⟨postings, attributes⟩

def ofIndex (index : Index) : Except SearchError LoadedIndex :=
  assemble index.postings index.attributes

/-- The postings of a term; none if it is not known. -/
def postingsOf (index : LoadedIndex) (term : Term) : PostingList := index.postings.items term

def document? (index : LoadedIndex) (ordinal : Ordinal) : Option Document :=
  index.attributes.document? ordinal

def documentCount (index : LoadedIndex) : Nat := index.attributes.documentCount

def termCount (index : LoadedIndex) : Nat := index.postings.size

end LoadedIndex

end TextSearch
