import TextSearch.Json.Numeral
import TextSearch.Text.Hex

/-!
# Reading JSON

A parser takes a value from the front of the text and returns what follows it. Values that are kept
are read with care: nesting is limited, numbers must be finite and halves of characters must come in
pairs. Values that are thrown away need only be spelled like values.
-/

namespace TextSearch.Json

/-- Whether a value is kept or thrown away. -/
inductive Care where
  | kept
  | ignored
  deriving DecidableEq

/-- How deep arrays and objects may be nested, less one. -/
def nestingLimit : Nat := 128

def isSpace (c : Char) : Bool := c == ' ' || c == '\n' || c == '\t' || c == '\r'

def skipSpaces (cs : List Char) : List Char := cs.dropWhile isSpace

/-- The character after a backslash and `u`. The first half of a pair needs its second half. -/
def unicodeEscape? (care : Care) (cs : List Char) : Option (Char × List Char) := do
  let (n, rest) ← Text.hexNumber? 4 cs
  if care = .ignored || n < 0xD800 || 0xDFFF < n then return (Char.ofNat n, rest)
  if 0xDBFF < n then none
  match rest with
  | '\\' :: 'u' :: rest =>
    let (m, rest) ← Text.hexNumber? 4 rest
    if m < 0xDC00 || 0xDFFF < m then none
    return (Char.ofNat (0x10000 + (n - 0xD800) * 0x400 + (m - 0xDC00)), rest)
  | _ => none

def escape? (care : Care) : List Char → Option (Char × List Char)
  | '"' :: rest => some ('"', rest)
  | '\\' :: rest => some ('\\', rest)
  | '/' :: rest => some ('/', rest)
  | 'b' :: rest => some ('\x08', rest)
  | 'f' :: rest => some ('\x0c', rest)
  | 'n' :: rest => some ('\n', rest)
  | 'r' :: rest => some ('\r', rest)
  | 't' :: rest => some ('\t', rest)
  | 'u' :: rest => unicodeEscape? care rest
  | _ => none

/-- The characters up to the closing quote. Each step takes a character, so `fuel` characters need no
more steps. -/
def stringRest? (care : Care) : Nat → List Char → Option (List Char × List Char)
  | 0, _ => none
  | _ + 1, [] => none
  | fuel + 1, c :: rest =>
    if c == '"' then some ([], rest)
    else if c == '\\' then do
      let (c, rest) ← escape? care rest
      let (cs, rest) ← stringRest? care fuel rest
      return (c :: cs, rest)
    else if c.toNat < 0x20 then none
    else do
      let (cs, rest) ← stringRest? care fuel rest
      return (c :: cs, rest)

def string? (care : Care) : List Char → Option (String × List Char)
  | '"' :: rest => (stringRest? care (rest.length + 1) rest).map fun r => (String.ofList r.1, r.2)
  | _ => none

def dropWord? : List Char → List Char → Option (List Char)
  | [], cs => some cs
  | w :: word, c :: cs => if w == c then dropWord? word cs else none
  | _ :: _, [] => none

def number? (care : Care) (cs : List Char) : Option (JsonNumber × List Char) := do
  let (parts, rest) ← numeralParts? cs
  match parts.number?, care with
  | some n, _ => return (n, rest)
  | none, .ignored => return (.integer 0, rest)
  | none, .kept => none

def dropColon? (cs : List Char) : Option (List Char) :=
  match skipSpaces cs with
  | ':' :: rest => some rest
  | _ => none

mutual

/-- The value at the front. `depth` levels of nesting are left, and every step takes a character, so
twice as many steps as characters suffice. -/
def value? (care : Care) : Nat → Nat → List Char → Option (JsonValue × List Char)
  | 0, _, _ => none
  | fuel + 1, depth, cs =>
    match skipSpaces cs with
    | 'n' :: rest => (dropWord? "ull".toList rest).map fun rest => (.null, rest)
    | 't' :: rest => (dropWord? "rue".toList rest).map fun rest => (.bool true, rest)
    | 'f' :: rest => (dropWord? "alse".toList rest).map fun rest => (.bool false, rest)
    | '"' :: rest => (string? care ('"' :: rest)).map fun r => (.string r.1, r.2)
    | '[' :: rest =>
      if care = .kept && depth ≤ 1 then none
      else
        match skipSpaces rest with
        | ']' :: rest => some (.array [], rest)
        | rest => (items? care fuel (depth - 1) rest).map fun r => (.array r.1, r.2)
    | '\x7b' :: rest =>
      if care = .kept && depth ≤ 1 then none
      else
        match skipSpaces rest with
        | '\x7d' :: rest => some (.object [], rest)
        | rest =>
          (members? care fuel (depth - 1) rest).map fun r => (.object (sortMembers r.1), r.2)
    | cs => (number? care cs).map fun r => (.number r.1, r.2)

/-- The items of an array up to its end. There is at least one. -/
def items? (care : Care) : Nat → Nat → List Char → Option (List JsonValue × List Char)
  | 0, _, _ => none
  | fuel + 1, depth, cs => do
    let (value, rest) ← value? care fuel depth cs
    match skipSpaces rest with
    | ']' :: rest => return ([value], rest)
    | ',' :: rest =>
      let (values, rest) ← items? care fuel depth rest
      return (value :: values, rest)
    | _ => none

/-- The members of an object up to its end. There is at least one. -/
def members? (care : Care) : Nat → Nat → List Char → Option (List (String × JsonValue) × List Char)
  | 0, _, _ => none
  | fuel + 1, depth, cs => do
    let (name, rest) ← string? care (skipSpaces cs)
    let rest ← dropColon? rest
    let (value, rest) ← value? care fuel depth rest
    match skipSpaces rest with
    | '\x7d' :: rest => return ([(name, value)], rest)
    | ',' :: rest =>
      let (members, rest) ← members? care fuel depth rest
      return ((name, value) :: members, rest)
    | _ => none

end

def steps (cs : List Char) : Nat := 2 * cs.length + 2

/-- What is said of a text that is not JSON. What is wrong with it and where is left out. -/
def refusal : String := "the text is not JSON"

def parse? (cs : List Char) : Option JsonValue := do
  let (value, rest) ← value? .kept (steps cs) nestingLimit cs
  if (skipSpaces rest).isEmpty then return value else none

end TextSearch.Json
