import TextSearch.Decimal.Shortest

/-!
# JSON values

Values and their text without blanks. Numbers are whole numbers of at most 64 bits or doubles.
-/

namespace TextSearch

/-- A number as JSON has it. -/
inductive JsonNumber where
  | integer (n : Int)
  | double (x : Decimal.Double)
  deriving DecidableEq, Repr

def JsonNumber.text : JsonNumber → String
  | .integer n => toString n
  | .double x => x.text

/-- A JSON value. The members of an object stand in the order of their names, each name once. -/
inductive JsonValue where
  | null
  | bool (b : Bool)
  | number (n : JsonNumber)
  | string (s : String)
  | array (items : List JsonValue)
  | object (members : List (String × JsonValue))

namespace Json

/-- Puts a member in its place among those of an object. It takes the place of one with the same
name. -/
def insertMember {α : Type} (name : String) (value : α) : List (String × α) → List (String × α)
  | [] => [(name, value)]
  | member :: rest =>
    if name = member.1 then (name, value) :: rest
    else if name < member.1 then (name, value) :: member :: rest
    else member :: insertMember name value rest

def sortMembers {α : Type} (members : List (String × α)) : List (String × α) :=
  members.foldl (fun sorted member => insertMember member.1 member.2 sorted) []

def hexDigit (n : Nat) : Char :=
  if n < 10 then Char.ofNat ('0'.toNat + n) else Char.ofNat ('a'.toNat + (n - 10))

/-- A character within quotes. Quotes, backslashes and control characters are escaped. -/
def escapeChar (c : Char) : List Char :=
  if c == '"' then ['\\', '"']
  else if c == '\\' then ['\\', '\\']
  else if c == '\x08' then ['\\', 'b']
  else if c == '\x0c' then ['\\', 'f']
  else if c == '\n' then ['\\', 'n']
  else if c == '\r' then ['\\', 'r']
  else if c == '\t' then ['\\', 't']
  else if c.toNat < 0x20 then
    ['\\', 'u', '0', '0', hexDigit (c.toNat / 16), hexDigit (c.toNat % 16)]
  else [c]

def quoted (s : String) : String :=
  "\"" ++ String.ofList (s.toList.flatMap escapeChar) ++ "\""

mutual

/-- The text of a value, without blanks. -/
def compact : JsonValue → String
  | .null => "null"
  | .bool b => if b then "true" else "false"
  | .number n => n.text
  | .string s => quoted s
  | .array items => "[" ++ String.intercalate "," (compactItems items) ++ "]"
  | .object members => "\x7b" ++ String.intercalate "," (compactMembers members) ++ "\x7d"

def compactItems : List JsonValue → List String
  | [] => []
  | value :: rest => compact value :: compactItems rest

def compactMembers : List (String × JsonValue) → List String
  | [] => []
  | (name, value) :: rest => (quoted name ++ ":" ++ compact value) :: compactMembers rest

end

mutual

/-- The text of a value over several lines, two blanks deeper at each level. -/
def pretty (indent : String) : JsonValue → String
  | .null => "null"
  | .bool b => if b then "true" else "false"
  | .number n => n.text
  | .string s => quoted s
  | .array [] => "[]"
  | .array (item :: rest) =>
    let inner := indent ++ "  "
    "[\n" ++ String.intercalate ",\n" (prettyItems inner (item :: rest)) ++ "\n" ++ indent ++ "]"
  | .object [] => "\x7b\x7d"
  | .object (member :: rest) =>
    let inner := indent ++ "  "
    "\x7b\n" ++ String.intercalate ",\n" (prettyMembers inner (member :: rest)) ++ "\n" ++ indent
      ++ "\x7d"

def prettyItems (indent : String) : List JsonValue → List String
  | [] => []
  | value :: rest => (indent ++ pretty indent value) :: prettyItems indent rest

def prettyMembers (indent : String) : List (String × JsonValue) → List String
  | [] => []
  | (name, value) :: rest =>
    (indent ++ quoted name ++ ": " ++ pretty indent value) :: prettyMembers indent rest

end

end Json

end TextSearch
