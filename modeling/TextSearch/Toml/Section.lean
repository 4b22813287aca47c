import TextSearch.Toml.Scalar

/-!
# TOML sections

A text is a row of sections: members in front of all headers, and then a header and its members each
time. Every member and every header has a line of its own, but an array may go over several lines.
-/

namespace TextSearch.Toml

/-- A header and the members below it. The path leads to the table from the outermost one. -/
structure Section where
  path : List String
  isElement : Bool
  members : Members

def Token.isBlanks : Token → Bool
  | .blanks _ => true
  | _ => false

def Token.isFiller : Token → Bool
  | .blanks _ => true
  | .newline => true
  | .comment => true
  | _ => false

def skipBlanks (tokens : List Token) : List Token := tokens.dropWhile Token.isBlanks

def skipFiller (tokens : List Token) : List Token := tokens.dropWhile Token.isFiller

/-- What follows the end of a line, with or without a comment. -/
def dropLineEnd? (tokens : List Token) : Option (List Token) :=
  match skipBlanks tokens with
  | [] => some []
  | .newline :: rest => some rest
  | .comment :: [] => some []
  | .comment :: .newline :: rest => some rest
  | _ => none

def name? : List Token → Option (String × List Token)
  | .word cs :: rest => some (String.ofList cs, rest)
  | .quoted text false :: rest => some (text, rest)
  | _ => none

/-- The names at the front, which periods join. There is at least one, and each takes a token. -/
def path? : Nat → List Token → Option (List String × List Token)
  | 0, _ => none
  | fuel + 1, tokens => do
    let (name, rest) ← name? (skipBlanks tokens)
    match skipBlanks rest with
    | .period :: rest =>
      let (path, rest) ← path? fuel rest
      return (name :: path, rest)
    | rest => return ([name], rest)

/-- The path of a key at the front, and what follows its equals sign. -/
def key? (tokens : List Token) : Option (List String × List Token) := do
  let (path, rest) ← path? tokens.length tokens
  match rest with
  | .equals :: rest => return (path, skipBlanks rest)
  | _ => none

mutual

/-- The value at the front. Every step takes a token at least, so twice as many steps as tokens
suffice. -/
def value? : Nat → List Token → Option (Value × List Token)
  | 0, _ => none
  | fuel + 1, tokens =>
    match tokens with
    | .quoted text _ :: rest => some (.string text, rest)
    | .word cs :: rest => wordValue? cs rest
    | .plus :: .word cs :: rest => number? cs rest
    | .openBracket :: rest => (items? fuel rest).map fun r => (.array r.1, r.2)
    | .openBrace :: rest =>
      match skipBlanks rest with
      | .closeBrace :: rest => some (.table .inline [], rest)
      | rest => (inlineMembers? fuel [] rest).map fun r => (.table .inline r.1, r.2)
    | _ => none

def items? : Nat → List Token → Option (List Value × List Token)
  | 0, _ => none
  | fuel + 1, tokens =>
    match skipFiller tokens with
    | .closeBracket :: rest => some ([], rest)
    | rest => do
      let (value, rest) ← value? fuel rest
      match skipFiller rest with
      | .comma :: rest =>
        let (values, rest) ← items? fuel rest
        return (value :: values, rest)
      | .closeBracket :: rest => return ([value], rest)
      | _ => none

/-- The members of a table in braces up to its end, after those already read. There is at least one
more. -/
def inlineMembers? : Nat → Members → List Token → Option (Members × List Token)
  | 0, _, _ => none
  | fuel + 1, members, tokens => do
    let (path, rest) ← key? tokens
    let (value, rest) ← value? fuel rest
    let members ← Members.addDotted? value path members
    match skipBlanks rest with
    | .closeBrace :: rest => return (members, rest)
    | .comma :: rest => inlineMembers? fuel members rest
    | _ => none

end

/-- The members of a table with a line of its own for each, up to the next header, after those
already read. -/
def members? : Nat → Members → List Token → Option (Members × List Token)
  | 0, _, _ => none
  | fuel + 1, members, tokens =>
    match skipFiller tokens with
    | [] => some (members, [])
    | .openBracket :: rest => some (members, .openBracket :: rest)
    | rest => do
      let (path, rest) ← key? rest
      let (value, rest) ← value? (2 * rest.length + 2) rest
      let members ← Members.addDotted? value path members
      let rest ← dropLineEnd? rest
      members? fuel members rest

def header? : List Token → Option (List String × Bool × List Token)
  | .openBracket :: .openBracket :: rest => do
    let (path, rest) ← path? rest.length rest
    match rest with
    | .closeBracket :: .closeBracket :: rest => return (path, true, ← dropLineEnd? rest)
    | _ => none
  | .openBracket :: rest => do
    let (path, rest) ← path? rest.length rest
    match rest with
    | .closeBracket :: rest => return (path, false, ← dropLineEnd? rest)
    | _ => none
  | _ => none

/-- The sections that have headers. Each takes a token at least, so `fuel` tokens hold no more of
them. -/
def headedSections? : Nat → List Token → Option (List Section)
  | _, [] => some []
  | 0, _ => none
  | fuel + 1, tokens => do
    let (path, isElement, rest) ← header? tokens
    let (members, rest) ← members? (rest.length + 1) [] rest
    let sections ← headedSections? fuel rest
    return ⟨path, isElement, members⟩ :: sections

/-- The sections of a text. The first one has no header. -/
def sections? (tokens : List Token) : Option (List Section) := do
  let (members, rest) ← members? (tokens.length + 1) [] tokens
  let sections ← headedSections? rest.length rest
  return ⟨[], false, members⟩ :: sections

end TextSearch.Toml
