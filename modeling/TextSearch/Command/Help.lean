import TextSearch.Command.Invocation

/-!
# Help

What the program says about itself when it is asked.
-/

namespace TextSearch.Command

/-- A line for an option or a task: its name, padded to a width, and what it does. -/
def entryLine (width : Nat) (entry : String × String) : String :=
  "  " ++ entry.1.pushn ' ' (width - entry.1.length) ++ "  " ++ entry.2

def listing (title : String) (entries : List (String × String)) : List String :=
  let width := (entries.map fun entry => entry.1.length).foldl max 0
  (title ++ ":") :: entries.map (entryLine width)

def environmentEntry (environment : String → Option String) (option purpose key : String)
    (ending : String) : String × String :=
  ("    " ++ option,
    purpose ++ " [env: " ++ key ++ "=" ++ (environment key).getD "" ++ "]" ++ ending)

def configEntry (environment : String → Option String) : String × String :=
  environmentEntry environment "--config <CONFIG>" "TOML configuration file" "SIEVE_CONFIG"
    " [default: sieve.toml]"

def directoryEntry (environment : String → Option String) : String × String :=
  environmentEntry environment "--index-path <INDEX_PATH>"
    "Override the index directory from the configuration" "SIEVE_INDEX_PATH" ""

def helpEntry : String × String := ("-h, --help", "Print help")

def Topic.lines (environment : String → Option String) : Topic → List String
  | .program =>
    ["Build and query compact keyword search indexes", "", "Usage: sieve [OPTIONS] <COMMAND>", ""] ++
      listing "Commands"
        [("index", "Build an index from newline-delimited JSON rows"),
          ("search", "Query a built index and print the formatted reply"),
          ("help", "Print this message or the help of the given subcommand(s)")] ++
      [""] ++
      listing "Options" [configEntry environment, directoryEntry environment, helpEntry]
  | .index =>
    ["Build an index from newline-delimited JSON rows", "",
      "Usage: sieve index [OPTIONS] --source <SOURCE>", ""] ++
      listing "Options"
        [configEntry environment, ("    --source <SOURCE>", "Rows to index, one JSON object per line"),
          directoryEntry environment, helpEntry]
  | .search =>
    ["Query a built index and print the formatted reply", "",
      "Usage: sieve search [OPTIONS] --query <QUERY>", ""] ++
      listing "Options"
        [configEntry environment, ("    --query <QUERY>", "Free-text query"),
          ("    --filter <FILTER>", "Attribute filter, e.g. `category:fiction,drama;year:2021`"),
          directoryEntry environment, ("    --limit <LIMIT>", ""),
          ("    --offset <OFFSET>", "[default: 0]"),
          ("    --format <FORMAT>", "basic, json or xml"), helpEntry]
  | .help =>
    ["Print this message or the help of the given subcommand(s)", "", "Usage: sieve help [COMMAND]...",
      ""] ++
      listing "Arguments" [("[COMMAND]...", "Print help for the subcommand(s)")]

def Topic.text (environment : String → Option String) (topic : Topic) : String :=
  String.join ((topic.lines environment).map (· ++ "\n"))

end TextSearch.Command
