import TextSearch.Storage.FileAccess
import TextSearch.Text.Pieces

/-!
# A disk in memory

Files and directories by the names on the way to them. A path is walked from left to right, and
every step but the last must lead to a directory.
-/

namespace TextSearch.Storage

abbrev Place := List String

/-- What stands at a place. -/
inductive Entry where
  | file (bytes : List UInt8)
  | directory
  deriving DecidableEq, Repr

/-- Places with what stands there. The outermost directory is not listed. -/
structure Disk where
  entries : List (Place × Entry) := []
  /-- The directory where relative paths start. -/
  home : Place := []
  deriving DecidableEq, Repr

namespace Disk

def entry? (disk : Disk) (place : Place) : Option Entry :=
  if place.isEmpty then some .directory
  else (disk.entries.find? fun e => e.1 = place).map Prod.snd

def remove (disk : Disk) (place : Place) : Disk :=
  { disk with entries := disk.entries.filter fun e => e.1 ≠ place }

def put (disk : Disk) (place : Place) (entry : Entry) : Disk :=
  { disk.remove place with entries := (place, entry) :: (disk.remove place).entries }

def nameLimit : Nat := 255

def pathLimit : Nat := 4095

def checkPath (path : String) : Except FileFault Unit :=
  if path.toList.contains '\x00' then .error .nulInName
  else if path.isEmpty then .error .notFound
  else if pathLimit < path.utf8ByteSize then .error .nameTooLong
  else .ok ()

def steps (path : String) : List String := (Text.pieces '/' path.toList).map String.ofList

/-- The name of the file behind the directories on a way to it. -/
def lastStep (path : String) : String := (steps path).getLast?.getD ""

def start (disk : Disk) (path : String) : Place := if path.startsWith "/" then [] else disk.home

def isIdle (name : String) : Bool := name.isEmpty || name = "."

def step (origin : Place) (name : String) : Except FileFault Place :=
  if nameLimit < name.utf8ByteSize then .error .nameTooLong
  else if isIdle name then .ok origin
  else if name = ".." then .ok origin.dropLast
  else .ok (origin ++ [name])

/-- Refuses a place without a directory. -/
def checkDirectory (disk : Disk) (place : Place) : Except FileFault Unit :=
  match disk.entry? place with
  | some .directory => .ok ()
  | some (.file _) => .error .notDirectory
  | none => .error .notFound

/-- The place to which steps lead. Each of them starts from a directory. -/
def walk (disk : Disk) (place : Place) : List String → Except FileFault Place
  | [] => .ok place
  | name :: rest => do
    disk.checkDirectory place
    disk.walk (← step place name) rest

def read (disk : Disk) (path : String) : Except FileFault (List UInt8) := do
  checkPath path
  match disk.entry? (← disk.walk (disk.start path) (steps path)) with
  | some (.file bytes) => .ok bytes
  | some .directory => .error .isDirectory
  | none => .error .notFound

/-- Makes the directories on a way. Those that were made stay even if the way cannot be walked to its
end. -/
def makeDirectories (disk : Disk) (place : Place) : List String → Disk × Except FileFault Place
  | [] => (disk, .ok place)
  | name :: rest =>
    match disk.walk place [name] with
    | .error fault => (disk, .error fault)
    | .ok place =>
      match disk.entry? place with
      | some .directory => disk.makeDirectories place rest
      | some (.file _) => (disk, .error .notDirectory)
      | none => (disk.put place .directory).makeDirectories place rest

def putFile (disk : Disk) (parent : Place) (name : String) (bytes : List UInt8) :
    Disk × Except FileFault Unit :=
  match disk.walk parent [name] with
  | .error fault => (disk, .error fault)
  | .ok place =>
    match disk.entry? place with
    | some .directory => (disk, .error .isDirectory)
    | _ => (disk.put place (.file bytes), .ok ())

/-- The steps to the directory of a file. Idle steps at their end are left out. -/
def directorySteps (path : String) : List String :=
  ((steps path).dropLast.reverse.dropWhile isIdle).reverse

/-- Makes the directory of a file with all directories on the way to it. -/
def makeDirectoryOf (disk : Disk) (path : String) : Disk × Except FileFault Place :=
  match directorySteps path with
  | [] => (disk, .ok (disk.start path))
  | names =>
    match checkPath ("/".intercalate names) with
    | .error fault => (disk, .error fault)
    | .ok () => disk.makeDirectories (disk.start path) names

/-- The disk after bytes were to be written to the file at a path, and whether they were. The
directory of the file is made even if the file has no valid path. -/
def write (disk : Disk) (path : String) (bytes : List UInt8) : Disk × Except FileFault Unit :=
  match disk.makeDirectoryOf path with
  | (disk, .error fault) => (disk, .error fault)
  | (disk, .ok parent) =>
    match checkPath path with
    | .error fault => (disk, .error fault)
    | .ok () => disk.putFile parent (lastStep path) bytes

def access : FileAccess (StateM Disk) where
  read path := return (← get).read path
  write path bytes := modifyGet fun disk => (disk.write path bytes).swap

end Disk

end TextSearch.Storage
