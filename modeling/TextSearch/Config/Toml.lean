import TextSearch.Config.Basic
import TextSearch.Error
import TextSearch.Storage.FileAccess
import TextSearch.Toml.Document
import TextSearch.Utf8

/-!
# Configurations in TOML

Each part of a configuration is a table. What is missing keeps its default, and unknown members are
passed over; but a known member must not be repeated and must be of the right kind.
-/

namespace TextSearch.Config

open TextSearch.Toml (Value Members)

def valueOr {α : Type} (read : Value → Option α) (dflt : α) : Option Value → Option α
  | none => some dflt
  | some value => read value

/-- The values of the fields of a part. An array gives them in their order, and a date gives none. -/
def fieldValues? (names : List String) : Value → Option (List (Option Value))
  | .table _ members => names.mapM fun name => Members.single? name members
  | .array items =>
    if items.length ≤ names.length then
      some (items.map some ++ List.replicate (names.length - items.length) none)
    else none
  | .date => some (names.map fun _ => none)
  | _ => none

def schema? (value : Value) : Option Schema := do
  match ← fieldValues? ["attr_uint", "attr_float", "attr_multi", "attr_string", "text_fields"] value with
  | [unsigned, float, multi, string, text] =>
    return {
      unsigned := ← valueOr Value.texts? [] unsigned
      float := ← valueOr Value.texts? [] float
      multi := ← valueOr Value.texts? [] multi
      string := ← valueOr Value.texts? [] string
      text := ← valueOr Value.texts? [] text }
  | _ => none

def location? (value : Value) : Option Storage.Location := do
  let dflt : Storage.Location := {}
  match ← fieldValues? ["name", "index_path"] value with
  | [name, directory] =>
    return {
      name := ← valueOr Value.text? dflt.name name
      directory := ← valueOr Value.text? dflt.directory directory }
  | _ => none

def rules? (value : Value) : Option TokenRules := do
  let dflt : TokenRules := {}
  match ← fieldValues?
      ["lowercase", "remove_stopwords", "stem", "min_token_length", "max_token_length"] value with
  | [lowercase, removeStopWords, stem, minLength, maxLength] =>
    return {
      lowercase := ← valueOr Value.flag? dflt.lowercase lowercase
      removeStopWords := ← valueOr Value.flag? dflt.removeStopWords removeStopWords
      stem := ← valueOr Value.flag? dflt.stem stem
      minLength := ← valueOr Value.count? dflt.minLength minLength
      maxLength := ← valueOr Value.count? dflt.maxLength maxLength }
  | _ => none

def searchDefaults? (value : Value) : Option SearchDefaults := do
  let dflt : SearchDefaults := {}
  match ← fieldValues? ["default_limit", "default_format", "sort_terms_on_write"] value with
  | [limit, format, sortTerms] =>
    return {
      limit := UInt64.ofNat (← valueOr Value.count? dflt.limit.toNat limit)
      format := ← valueOr Value.text? dflt.format format
      sortTerms := ← valueOr Value.flag? dflt.sortTerms sortTerms }
  | _ => none

def ofMembers? (members : Members) : Option Config := do
  match ← fieldValues? ["source", "index", "tokenizer", "search"] (.table .headed members) with
  | [schema, location, rules, search] =>
    return {
      schema := ← valueOr schema? {} schema
      location := ← valueOr location? {} location
      rules := ← valueOr rules? {} rules
      search := ← valueOr searchDefaults? {} search }
  | _ => none

def ofToml (text : String) : Except SearchError Config :=
  match Toml.parse? text with
  | none => .error (.config "the text is not TOML")
  | some members =>
    match ofMembers? members with
    | some config => .ok config
    | none => .error (.config "a value has the wrong kind or stands twice")

def load {m : Type → Type} [Monad m] (access : Storage.FileAccess m) (path : String) :
    m (Except SearchError Config) := do
  match ← access.read path with
  | .error fault => return .error (.config s!"cannot read {path}: {fault.message}")
  | .ok bytes =>
    match Utf8.decode bytes with
    | .ok text => return ofToml text
    | .error fault => return .error (.config s!"cannot read {path}: {fault.message}")

end TextSearch.Config
