import TextSearch.Decimal.Numeral

/-!
# Invocations

The program is told what to do by arguments: `index` builds an index, `search` asks it. Options have
values, which follow them as arguments of their own or behind an equals sign.
-/

namespace TextSearch.Command

/-- What the program is asked to do. -/
inductive Task where
  | index (source : String)
  | search (query : String) (filters : List String) (limit : Option UInt64) (offset : UInt64)
    (format : Option String)
  deriving DecidableEq, Repr

/-- A task, the configuration for it, and the directory of the index if it is not the configured
one. -/
structure Invocation where
  config : String
  directory : Option String
  task : Task
  deriving DecidableEq, Repr

/-- What help can be about. -/
inductive Topic where
  | program
  | index
  | search
  | help
  deriving DecidableEq, Repr

/-- Why arguments make no invocation. -/
inductive Refusal where
  | help (topic : Topic)
  | misuse (reason : String)
  deriving DecidableEq, Repr

/-- What the value of an option must be. -/
inductive Form where
  | path
  | text
  | count
  deriving DecidableEq

/-- An option of the program. -/
structure Choice where
  name : String
  form : Form
  isRepeatable : Bool := false

/-- The number of a count: digits, which a plus sign may precede, for a number that 64 bits hold. -/
def count? (value : String) : Option UInt64 :=
  let digits := Decimal.dropPlus value.toList
  let n := Decimal.digitsValue 0 digits
  if !digits.isEmpty && digits.all Decimal.isDigit && n < UInt64.size then some (UInt64.ofNat n)
  else none

def Form.admits (form : Form) (value : String) : Bool :=
  match form with
  | .path => !value.isEmpty
  | .text => true
  | .count => (count? value).isSome

def commonChoices : List Choice := [⟨"config", .path, false⟩, ⟨"index-path", .path, false⟩]

def indexChoices : List Choice := commonChoices ++ [⟨"source", .path, false⟩]

def searchChoices : List Choice :=
  commonChoices ++
    [⟨"query", .text, false⟩, ⟨"filter", .text, true⟩, ⟨"limit", .count, false⟩,
      ⟨"offset", .count, false⟩, ⟨"format", .text, false⟩]

/-- Names of options with their values, in the order in which they were given. -/
abbrev Given := List (String × String)

def Given.values (given : Given) (name : String) : List String :=
  (given.filter fun entry => entry.1 = name).map Prod.snd

def Given.value? (given : Given) (name : String) : Option String := (given.values name).head?

def Given.add (given : Given) (choice : Choice) (value : String) : Except Refusal Given :=
  if !choice.isRepeatable && (given.value? choice.name).isSome then
    .error (.misuse s!"--{choice.name} stands twice")
  else if choice.form.admits value then .ok (given ++ [(choice.name, value)])
  else .error (.misuse s!"'{value}' is no value for --{choice.name}")

/-- An argument that is an option: its name and the value behind an equals sign. -/
def option? (argument : String) : Option (String × Option String) :=
  match argument.toList with
  | '-' :: '-' :: cs =>
    let name := String.ofList (cs.takeWhile (· ≠ '='))
    match cs.dropWhile (· ≠ '=') with
    | [] => some (name, none)
    | _ :: value => some (name, some (String.ofList value))
  | _ => none

/-- Whether an argument cannot be the value of the option before it. A hyphen alone can. -/
def isDashed (argument : String) : Bool := argument.startsWith "-" && argument ≠ "-"

/-- Takes options from the front up to an argument that is none, which is left to be read next. Two
hyphens alone end the options. -/
def takeOptions (topic : Topic) (choices : List Choice) (given : Given) :
    List String → Except Refusal (Given × List String)
  | [] => .ok (given, [])
  | ["--"] => .ok (given, [])
  | argument :: rest =>
    match option? argument with
    | some ("help", none) => .error (.help topic)
    | some (name, attached) =>
      match choices.find? fun choice => choice.name = name with
      | none => .error (.misuse s!"unexpected argument '{argument}'")
      | some choice =>
        match attached, rest with
        | some value, rest =>
          match given.add choice value with
          | .ok given => takeOptions topic choices given rest
          | .error refusal => .error refusal
        | none, value :: rest =>
          if isDashed value then .error (.misuse s!"--{name} needs a value")
          else
            match given.add choice value with
            | .ok given => takeOptions topic choices given rest
            | .error refusal => .error refusal
        | none, [] => .error (.misuse s!"--{name} needs a value")
    | none =>
      if argument.startsWith "-h" then .error (.help topic)
      else if isDashed argument then .error (.misuse s!"unexpected argument '{argument}'")
      else .ok (given, argument :: rest)

def takeOptionsOnly (topic : Topic) (choices : List Choice) (arguments : List String) :
    Except Refusal Given := do
  match ← takeOptions topic choices [] arguments with
  | (given, []) => .ok given
  | (_, argument :: _) => .error (.misuse s!"unexpected argument '{argument}'")

def Given.required (given : Given) (name : String) : Except Refusal String :=
  match given.value? name with
  | some value => .ok value
  | none => .error (.misuse s!"--{name} is missing")

/-- The value of an option for all tasks. What stands behind the name of the task counts more than
what stands before it, and both count more than the environment, whose value must be a path wherever
it is looked at. -/
def commonValue (before after : Given) (name : String) (environment : Option String) :
    Except Refusal (Option String) :=
  match before.value? name, after.value? name with
  | some _, some value => .ok (some value)
  | outer, inner =>
    if environment = some "" then .error (.misuse s!"--{name} has no value")
    else .ok (inner <|> outer <|> environment)

def readTask (name : String) (arguments : List String) : Except Refusal (Given × Task) := do
  if name = "index" then
    let given ← takeOptionsOnly .index indexChoices arguments
    return (given, .index (← given.required "source"))
  else if name = "search" then
    let given ← takeOptionsOnly .search searchChoices arguments
    let query ← given.required "query"
    return (given, .search query (given.values "filter") ((given.value? "limit").bind count?)
      (((given.value? "offset").bind count?).getD 0) (given.value? "format"))
  else .error (.misuse s!"unrecognized task '{name}'")

def helpRefusal : List String → Refusal
  | [] => .help .program
  | ["index"] => .help .index
  | ["search"] => .help .search
  | ["help"] => .help .help
  | name :: _ => .misuse s!"unrecognized task '{name}'"

def Invocation.read (environment : String → Option String) (arguments : List String) :
    Except Refusal Invocation := do
  match ← takeOptions .program commonChoices [] arguments with
  | (_, []) => .error (.misuse "a task is missing")
  | (_, "help" :: names) => .error (helpRefusal names)
  | (before, name :: rest) =>
    let (after, task) ← readTask name rest
    let config ← commonValue before after "config" (environment "SIEVE_CONFIG")
    let directory ← commonValue before after "index-path" (environment "SIEVE_INDEX_PATH")
    return { config := config.getD "sieve.toml", directory, task }

end TextSearch.Command
