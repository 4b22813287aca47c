import TextSearch.Decimal.Numeral
import TextSearch.Query.Filter
import TextSearch.Unicode.Lowercase

/-!
# Requests

A request comes as `key=value` pairs joined by `&`, in the address of a GET or in the body of a POST.
Of several values of one key the last one counts, but filters add up.
-/

namespace TextSearch

/-- What is searched for, which matches are asked for, and in which form. -/
structure Request where
  query : String := ""
  index : String := "*"
  charset : String := "utf8"
  dataFormat : String := "xml"
  limit : UInt64 := 4000
  offset : UInt64 := 0
  filter : Filter := {}
  deriving DecidableEq, Repr

namespace Request

def withDefaults (query : String) (limit : UInt64) (format : String) : Request :=
  { query := query, limit := limit, dataFormat := Unicode.lowercase format }

def withFilter (r : Request) (text : String) : Request := { r with filter := (r.filter.merge text).1 }

def withPage (r : Request) (offset limit : UInt64) : Request :=
  { r with offset := offset, limit := limit }

def withFormat (r : Request) (format : String) : Request :=
  { r with dataFormat := Unicode.lowercase format }

/-- The number that a value starts with. A number that 64 bits do not hold counts as zero. -/
def count (value : List Char) : UInt64 :=
  let n := Decimal.digitsValue 0 (Decimal.leadingDigits value)
  if n < UInt64.size then UInt64.ofNat n else 0

/-- The key and the value of a pair, if it has a `=` and a key. -/
def pair? (piece : List Char) : Option (String × String) :=
  match Text.splitOnce '=' piece with
  | none => none
  | some (key, value) =>
    let key := Unicode.trimBlanks key
    if key.isEmpty then none
    else some (String.ofList key, String.ofList (Unicode.trimBlanks value))

def pairs (text : String) : List (String × String) :=
  (Text.pieces '&' text.toList).filterMap pair?

/-- The request with the value of a key. Unknown keys change nothing. -/
def set (r : Request) (pair : String × String) : Request :=
  match pair.1 with
  | "query" => { r with query := pair.2 }
  | "index" => { r with index := pair.2 }
  | "charset" => { r with charset := pair.2 }
  | "dataformat" => r.withFormat pair.2
  | "limit" => { r with limit := count pair.2.toList }
  | "offset" => { r with offset := count pair.2.toList }
  | "filter" => r.withFilter pair.2
  | _ => r

/-- The request that some pairs make. There must be one pair at least. -/
def parse (text : String) : Except SearchError Request :=
  match pairs text with
  | [] => .error (.invalidRequest s!"no parameters in '{text}'")
  | ps => .ok (ps.foldl set {})

/-- The parameters in an address, which starts with `/?`. -/
def parameters? (uri : String) : Option String :=
  match uri.toList with
  | '/' :: '?' :: rest => some (String.ofList rest)
  | _ => none

def ofMessage (method uri body : String) : Except SearchError Request :=
  match method with
  | "GET" =>
    match parameters? uri with
    | some text => parse text
    | none => .error (.invalidRequest s!"unexpected uri '{uri}'")
  | "POST" => parse body
  | _ => .error (.invalidRequest s!"unsupported method '{method}'")

end Request

end TextSearch
