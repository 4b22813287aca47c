import TextSearch.Text.Hex

/-!
# TOML tokens

A text is cut into marks, words, quoted texts, comments and the space between them. A line ends with
a line feed, which a carriage return may precede.
-/

namespace TextSearch.Toml

/-- The parts of a text. -/
inductive Token where
  | blanks (cs : List Char)
  | newline
  | comment
  | equals
  | period
  | comma
  | colon
  | plus
  | openBrace
  | closeBrace
  | openBracket
  | closeBracket
  /-- Letters, digits, hyphens and underscores. -/
  | word (cs : List Char)
  | quoted (text : String) (multiline : Bool)
  deriving DecidableEq, Repr

def isBlank (c : Char) : Bool := c == ' ' || c == '\t'

def isGap (c : Char) : Bool := isBlank c || c == '\n'

def isWordChar (c : Char) : Bool := c.isAlphanum || c == '-' || c == '_'

def isCommentChar (c : Char) : Bool := c == '\t' || ' ' ≤ c

def isQuotable (c : Char) : Bool := isCommentChar c && c != '\x7f'

def foldLineEnds : List Char → List Char
  | '\r' :: '\n' :: rest => '\n' :: foldLineEnds rest
  | c :: rest => c :: foldLineEnds rest
  | [] => []

/-- The character whose number stands in `width` digits. -/
def numbered? (width : Nat) (cs : List Char) : Option (List Char × List Char) := do
  let (n, rest) ← Text.hexNumber? width cs
  if n < 0xD800 || (0xDFFF < n && n < 0x110000) then return ([Char.ofNat n], rest) else none

/-- The characters that a backslash and what follows it stand for. At the end of a line of a text
with several lines they stand for nothing, and so do the spaces at the start of the next lines. -/
def escape? (multiline : Bool) : List Char → Option (List Char × List Char)
  | '"' :: rest => some (['"'], rest)
  | '\\' :: rest => some (['\\'], rest)
  | 'b' :: rest => some (['\x08'], rest)
  | 'f' :: rest => some (['\x0c'], rest)
  | 'n' :: rest => some (['\n'], rest)
  | 'r' :: rest => some (['\r'], rest)
  | 't' :: rest => some (['\t'], rest)
  | 'u' :: rest => numbered? 4 rest
  | 'U' :: rest => numbered? 8 rest
  | cs => if multiline && (cs.takeWhile isGap).contains '\n' then some ([], cs.dropWhile isGap) else none

def dropPair? (c : Char) : List Char → Option (List Char)
  | a :: b :: rest => if a == c && b == c then some rest else none
  | _ => none

/-- The characters up to the closing quotes. A text with several lines is closed by three quotes, and
up to two more quotes may stand before them. Each step takes a character at least, so `fuel`
characters need no more steps. -/
def quotedRest? (quote : Char) (multiline : Bool) : Nat → List Char → Option (List Char × List Char)
  | 0, _ => none
  | _ + 1, [] => none
  | fuel + 1, c :: rest =>
    let keep (cs rest : List Char) := (quotedRest? quote multiline fuel rest).map fun r =>
      (cs ++ r.1, r.2)
    if c == quote then
      if multiline then
        match dropPair? quote rest with
        | some rest =>
          let extra := (rest.take 2).takeWhile (· == quote)
          some (extra, rest.drop extra.length)
        | none => keep [c] rest
      else some ([], rest)
    else if c == '\n' then if multiline then keep [c] rest else none
    else if c == '\\' && quote == '"' then do
      let (cs, rest) ← escape? multiline rest
      keep cs rest
    else if isQuotable c then keep [c] rest
    else none

def dropLineFeed : List Char → List Char
  | '\n' :: rest => rest
  | cs => cs

/-- The quoted text behind its first quote. Three quotes open a text with several lines. -/
def quoted? (quote : Char) (cs : List Char) : Option (Token × List Char) :=
  match dropPair? quote cs with
  | some rest =>
    let rest := dropLineFeed rest
    (quotedRest? quote true (rest.length + 1) rest).map fun r =>
      (.quoted (String.ofList r.1) true, r.2)
  | none =>
    (quotedRest? quote false (cs.length + 1) cs).map fun r =>
      (.quoted (String.ofList r.1) false, r.2)

def token? : List Char → Option (Token × List Char)
  | [] => none
  | c :: rest =>
    match c with
    | '\n' => some (.newline, rest)
    | '#' => some (.comment, rest.dropWhile isCommentChar)
    | '=' => some (.equals, rest)
    | '.' => some (.period, rest)
    | ',' => some (.comma, rest)
    | ':' => some (.colon, rest)
    | '+' => some (.plus, rest)
    | '\x7b' => some (.openBrace, rest)
    | '\x7d' => some (.closeBrace, rest)
    | '[' => some (.openBracket, rest)
    | ']' => some (.closeBracket, rest)
    | '\'' => quoted? '\'' rest
    | '"' => quoted? '"' rest
    | _ =>
      if isBlank c then some (.blanks (c :: rest.takeWhile isBlank), rest.dropWhile isBlank)
      else if isWordChar c then
        some (.word (c :: rest.takeWhile isWordChar), rest.dropWhile isWordChar)
      else none

/-- The tokens of a text. Each takes a character at least, so `fuel` characters hold no more of
them. -/
def tokensWithin? : Nat → List Char → Option (List Token)
  | _, [] => some []
  | 0, _ => none
  | fuel + 1, cs => do
    let (token, rest) ← token? cs
    let tokens ← tokensWithin? fuel rest
    return token :: tokens

/-- The text without the mark of its byte order that it may start with. -/
def dropByteOrderMark : List Char → List Char
  | '\ufeff' :: rest => rest
  | cs => cs

def tokens? (text : String) : Option (List Token) :=
  let cs := foldLineEnds (dropByteOrderMark text.toList)
  tokensWithin? cs.length cs

end TextSearch.Toml
