import TextSearch.Json.Value
import TextSearch.Reply.Basic

/-!
# Replies in JSON

A reply is an object with the parts of the summary and an array of the documents. Of several fields
with one name a document shows the last.
-/

namespace TextSearch.Reply

def FieldValue.toJson : FieldValue → JsonValue
  | .number n => .number (.integer n.toNat)
  | .text s => .string s

def fieldsObject (fields : Fields) : JsonValue :=
  .object (TextSearch.Json.sortMembers (fields.map fun field => (field.1, field.2.toJson)))

def jsonObject (summary : List (String × String)) (packCost : String) (documents : List Fields) :
    JsonValue :=
  .object (TextSearch.Json.sortMembers
    (summary.map (fun pair => (pair.1, JsonValue.string pair.2)) ++
      [("docs", .array (documents.map fieldsObject)), ("pack_cost", .string packCost)]))

def json (summary : List (String × String)) (packCost : String) (documents : List Fields) : String :=
  TextSearch.Json.pretty "" (jsonObject summary packCost documents)

end TextSearch.Reply
