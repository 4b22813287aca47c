import TextSearch.Reply.Json
import TextSearch.Reply.Xml

/-!
# Reply formats

The form of a reply is chosen by name; a name that is not known means plain text.
-/

namespace TextSearch

/-- The forms of a reply. -/
inductive ReplyFormat where
  | basic
  | json
  | xml
  deriving DecidableEq, Repr

namespace ReplyFormat

/-- The format with a name. Whether letters are capitals does not matter. -/
def ofName (name : String) : ReplyFormat :=
  let small := name.toList.map Char.toLower
  if small = "json".toList then .json else if small = "xml".toList then .xml else .basic

def contentType : ReplyFormat → String
  | .basic => "text/plain"
  | .json => "application/json"
  | .xml => "text/xml"

/-- The reply to a search. Writing it took some microseconds. -/
def render (format : ReplyFormat) (packCost : Nat) (attributes : AttributeStore) (r : Response) :
    String :=
  let summary := Reply.summary r
  let documents := r.documents.map (Reply.project attributes)
  let cost := Reply.costText packCost
  match format with
  | .basic => Reply.basic summary cost documents
  | .json => Reply.json summary cost documents
  | .xml => Reply.xml summary cost documents

end ReplyFormat

def Searcher.answer (s : Searcher) (method uri body : String) :
    Except SearchError (ReplyFormat × String) := do
  let request ← Request.ofMessage method uri body
  let format := ReplyFormat.ofName request.dataFormat
  return (format, format.render 0 s.index.attributes (s.search request))

end TextSearch
