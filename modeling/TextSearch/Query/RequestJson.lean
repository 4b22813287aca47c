import TextSearch.Json.Parser
import TextSearch.Query.Request

/-!
# Requests in JSON

A request without a filter may be written as an object with its six parts, each once, or as an array
of them. Other members of the object are passed over.
-/

namespace TextSearch.Request

/-- The names of the parts, in the order in which an array has them. -/
def partNames : List String := ["query", "index", "charset", "dataformat", "limit", "offset"]

def textPart? : JsonValue → Option String
  | .string s => some s
  | _ => none

def countPart? : JsonValue → Option UInt64
  | .number (.integer n) =>
    if 0 ≤ n && n.toNat < UInt64.size then some (UInt64.ofNat n.toNat) else none
  | _ => none

def ofParts? : List JsonValue → Option Request
  | [query, index, charset, dataFormat, limit, offset] => do
    return {
      query := ← textPart? query
      index := ← textPart? index
      charset := ← textPart? charset
      dataFormat := ← textPart? dataFormat
      limit := ← countPart? limit
      offset := ← countPart? offset }
  | _ => none

/-- The parts among the members of an object up to its end. Each member takes more than one
character. -/
def partMembers? : Nat → List Char → Option (List (String × JsonValue) × List Char)
  | 0, _ => none
  | fuel + 1, cs => do
    let (name, rest) ← Json.string? .kept (Json.skipSpaces cs)
    let rest ← Json.dropColon? rest
    let isPart := partNames.contains name
    let care := if isPart then Json.Care.kept else .ignored
    let (value, rest) ← Json.value? care (Json.steps rest) (Json.nestingLimit - 1) rest
    let found := if isPart then [(name, value)] else []
    match Json.skipSpaces rest with
    | '\x7d' :: rest => return (found, rest)
    | ',' :: rest =>
      let (members, rest) ← partMembers? fuel rest
      return (found ++ members, rest)
    | _ => none

def ofMembers? (members : List (String × JsonValue)) : Option Request := do
  if members.length ≠ partNames.length then none
  let parts ← partNames.mapM fun name =>
    (members.find? fun member => member.1 = name).map Prod.snd
  ofParts? parts

def ofJson? (text : String) : Option Request := do
  match Json.skipSpaces text.toList with
  | '\x7b' :: rest =>
    let (members, rest) ← partMembers? (rest.length + 1) rest
    if (Json.skipSpaces rest).isEmpty then ofMembers? members else none
  | cs =>
    match Json.parse? cs with
    | some (.array items) => ofParts? items
    | _ => none

end TextSearch.Request
