import TextSearch.Attribute.Kind

/-!
# Errors

Everything that can go wrong while an index is built, stored, loaded or asked.
-/

namespace TextSearch

/-- The causes of failure. -/
inductive SearchError where
  /-- A column that the schema names is not in the rows. -/
  | unknownColumn (column : String)
  /-- All ordinals are taken. -/
  | tooManyDocuments (count : Nat)
  /-- A file of the index does not exist. -/
  | missingFile (path : String)
  /-- The bytes from `offset` on are fewer than the `needed` ones. -/
  | truncated (path : String) (offset needed : Nat)
  /-- A column holds another number of documents than the unsigned one. -/
  | countMismatch (kind : Kind) (expected actual : Nat)
  /-- Stored bytes that no index is written as. -/
  | corruptRecord (detail : String)
  /-- A request that cannot be understood. -/
  | invalidRequest (detail : String)
  /-- A text that cannot be cut into tokens. -/
  | tokenizer (detail : String)
  /-- A configuration that cannot be read. -/
  | config (detail : String)
  /-- A source of rows that cannot be read. -/
  | source (detail : String)
  /-- A text that is not JSON, with what its reader says of it. -/
  | json (detail : String)
  /-- The file system refused. -/
  | io (detail : String)
  deriving DecidableEq, Repr

namespace SearchError

def message : SearchError → String
  | .unknownColumn column => s!"Unknown column '{column}'"
  | .tooManyDocuments count =>
    s!"Too many documents: {count} already indexed, no 32-bit ordinal left"
  | .missingFile path => s!"Cannot open file {path}"
  | .truncated path offset needed =>
    s!"Truncated read in {path}: need {needed} bytes at offset {offset}"
  | .countMismatch kind expected actual =>
    s!"Document count mismatch in {kind.name} attributes: expected {expected}, got {actual}"
  | .corruptRecord detail => s!"Corrupt record: {detail}"
  | .invalidRequest detail => s!"Invalid request: {detail}"
  | .tokenizer detail => s!"Tokenizer error: {detail}"
  | .config detail => s!"Configuration error: {detail}"
  | .source detail => s!"Source error: {detail}"
  | .json detail => s!"Serialization error: {detail}"
  | .io detail => s!"IO error: {detail}"

def isLoadError : SearchError → Bool
  | .missingFile .. | .truncated .. | .countMismatch .. | .corruptRecord .. => true
  | _ => false

def isBuildError : SearchError → Bool
  | .unknownColumn .. | .tooManyDocuments .. => true
  | _ => false

end SearchError

end TextSearch
