import TextSearch.Query.Intersection
import TextSearch.Query.Request
import TextSearch.Token.Segmenter

/-!
# Searching

The matches of a request are the documents that hold every token of the query and pass the filter.
All of them are counted; one page of them is returned.
-/

namespace TextSearch

/-- How long the stages of a search took, in microseconds. -/
structure Costs where
  parse : UInt64 := 0
  segment : UInt64 := 0
  search : UInt64 := 0
  deriving DecidableEq, Repr

def Costs.total (c : Costs) : UInt64 := c.parse + c.segment + c.search

/-- The outcome of a search. -/
structure Response where
  query : String := ""
  tokens : List String := []
  totalFound : Nat := 0
  documents : List Ordinal := []
  costs : Costs := {}
  deriving DecidableEq, Repr

/-- Where a page ends. The end does not go beyond the largest word. -/
def pageEnd (offset limit : UInt64) : Nat := min (offset.toNat + limit.toNat) (UInt64.size - 1)

/-- What a search has so far: how many documents it found, and those of them that lie in the
page. -/
structure Tally where
  total : Nat := 0
  documents : Array Ordinal := #[]

/-- Counts one more document. It is returned if its place lies in the page. -/
def Tally.count (offset limit : UInt64) (t : Tally) (ordinal : Ordinal) : Tally where
  total := t.total + 1
  documents :=
    if offset.toNat ≤ t.total && t.total < pageEnd offset limit then t.documents.push ordinal
    else t.documents

namespace LoadedIndex

def admits (index : LoadedIndex) (clauses : List Clause) (ordinal : Ordinal) : Bool :=
  (index.document? ordinal).any (admitsAll clauses)

/-- Goes on through the documents of an intersection and counts those that meet some clauses. -/
def collect (index : LoadedIndex) (clauses : List Clause) (offset limit : UInt64)
    (i : Intersection) (t : Tally) : Tally :=
  match _h : i.next with
  | (_, none) => t
  | (j, some ordinal) =>
    index.collect clauses offset limit j
      (if index.admits clauses ordinal then t.count offset limit ordinal else t)
termination_by i.remaining
decreasing_by exact Intersection.remaining_next_lt _h

end LoadedIndex

/-- Answers requests about an index. -/
structure Searcher where
  index : LoadedIndex
  segmenter : Segmenter

namespace Searcher

/-- The tokens of a query. A query that cannot be cut has none. -/
def segment (s : Searcher) (query : String) : List Token :=
  match s.segmenter query with
  | .ok tokens => tokens
  | .error _ => []

def search (s : Searcher) (request : Request) : Response :=
  let clauses := request.filter.resolve s.index.attributes
  let tokens := (s.segment request.query).map Token.text
  let shared := Intersection.ofTerms s.index (tokens.map Term.ofText)
  let tally := s.index.collect clauses request.offset request.limit shared {}
  { query := request.query
    tokens := tokens
    totalFound := tally.total
    documents := tally.documents.toList }

end Searcher

end TextSearch
