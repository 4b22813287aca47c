import TextSearch.Command.Help
import TextSearch.Config.Toml
import TextSearch.Index.Builder
import TextSearch.Index.Stored
import TextSearch.Reply.Format
import TextSearch.Row.File

/-!
# Running the program

A run reads the configuration and then builds an index or asks one. It ends with a status: zero if
all went well, one if the task failed, and two if the arguments make no sense.
-/

namespace TextSearch.Command

open Storage (FileAccess Location)

variable {m : Type → Type} [Monad m]

/-- What a run leaves behind. -/
structure Outcome where
  status : UInt32
  output : String := ""
  complaint : String := ""
  deriving DecidableEq, Repr

def runIndex (access : FileAccess m) (config : Config) (source : String) :
    ExceptT SearchError m Unit := do
  let rows ← ExceptT.mk (JsonLines.openFile access source)
  let index ← buildIndex config.schema config.rules.segmenter rows
  ExceptT.mk (Storage.save access config.location index)

def runSearch (access : FileAccess m) (config : Config) (request : Request) :
    ExceptT SearchError m String := do
  let index ← Storage.load access config.location
  let searcher : Searcher := ⟨index, config.rules.segmenter⟩
  let format := ReplyFormat.ofName request.dataFormat
  return format.render 0 index.attributes (searcher.search request)

/-- The request for a query with some filters, of which a page is shown in some format. -/
def searchRequest (d : SearchDefaults) (query : String) (filters : List String)
    (limit : Option UInt64) (offset : UInt64) (format : Option String) : Request :=
  let request := filters.foldl Request.withFilter (d.request query)
  let request := request.withPage offset (limit.getD request.limit)
  match format with
  | some name => request.withFormat name
  | none => request

def Task.run (access : FileAccess m) (config : Config) : Task → ExceptT SearchError m String
  | .index source => do
    runIndex access config source
    return ""
  | .search query filters limit offset format =>
    runSearch access config (searchRequest config.search query filters limit offset format)

def Invocation.run (access : FileAccess m) (i : Invocation) : ExceptT SearchError m String := do
  let config ← ExceptT.mk (Config.load access i.config)
  let location : Location :=
    { config.location with directory := i.directory.getD config.location.directory }
  i.task.run access { config with location }

def run (access : FileAccess m) (environment : String → Option String) (arguments : List String) :
    m Outcome := do
  match Invocation.read environment arguments with
  | .error (.help topic) => return ⟨0, topic.text environment, ""⟩
  | .error (.misuse reason) => return ⟨2, "", reason⟩
  | .ok invocation =>
    match ← (invocation.run access).run with
    | .ok text => return ⟨0, text, ""⟩
    | .error e => return ⟨1, "", e.message⟩

end TextSearch.Command
