import TextSearch.Command.Run

/-!
# The program

The files of the machine and the arguments, environment and output of the process.
-/

namespace TextSearch

open Storage (FileAccess FileFault)

def faultOf : IO.Error → FileFault
  | .noFileOrDirectory .. => .notFound
  | .noSuchThing .. => .notFound
  | e => .other (toString e)

def guarded {α : Type} (action : IO α) : IO (Except FileFault α) := do
  try return .ok (← action) catch e => return .error (faultOf e)

/-- The directory of a path; empty if the path has no slash. -/
def directoryOf (path : String) : String :=
  String.ofList (path.toList.reverse.dropWhile (· ≠ '/')).reverse

def machineFiles : FileAccess IO where
  read path := guarded do return (← IO.FS.readBinFile path).toList
  write path bytes := guarded do
    let directory := directoryOf path
    unless directory.isEmpty do IO.FS.createDirAll directory
    IO.FS.writeBinFile path (ByteArray.mk bytes.toArray)

def runOnMachine (arguments : List String) : IO UInt32 := do
  let config ← IO.getEnv "SIEVE_CONFIG"
  let directory ← IO.getEnv "SIEVE_INDEX_PATH"
  let environment (name : String) : Option String :=
    if name = "SIEVE_CONFIG" then config else if name = "SIEVE_INDEX_PATH" then directory else none
  let outcome ← Command.run machineFiles environment arguments
  (← IO.getStdout).putStr outcome.output
  unless outcome.complaint.isEmpty do (← IO.getStderr).putStrLn ("Error: " ++ outcome.complaint)
  return outcome.status

end TextSearch

def main (arguments : List String) : IO UInt32 := TextSearch.runOnMachine arguments
