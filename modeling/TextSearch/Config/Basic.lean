import TextSearch.Query.Request
import TextSearch.Schema
import TextSearch.Storage.Location
import TextSearch.Token.Tokenizer

/-!
# Configurations

A configuration says which columns are indexed, where the index is stored, which words become
tokens, and what a search does when it is not told otherwise.
-/

namespace TextSearch

/-- How many matches a search returns and in which format unless it is told, and whether a stored
index must have its terms in order. It has them in order in any case. -/
structure SearchDefaults where
  limit : UInt64 := 4000
  format : String := "xml"
  sortTerms : Bool := true
  deriving DecidableEq, Repr

/-- Everything that can be configured for an index. -/
structure Config where
  schema : Schema := {}
  location : Storage.Location := {}
  rules : TokenRules := {}
  search : SearchDefaults := {}
  deriving DecidableEq, Repr

def SearchDefaults.request (d : SearchDefaults) (query : String) : Request :=
  Request.withDefaults query d.limit d.format

end TextSearch
