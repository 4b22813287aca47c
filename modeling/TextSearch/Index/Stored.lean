import TextSearch.Index.Basic
import TextSearch.Storage.AttributeFile
import TextSearch.Storage.FileAccess
import TextSearch.Storage.Location

/-!
# Stored indexes

An index is stored as a file of postings and a file for the column of each kind. What is loaded must
be as consistent as what was stored.
-/

namespace TextSearch.Storage

variable {m : Type → Type} [Monad m]

def encodeAttributes (attributes : AttributeStore) (kind : Kind) : List UInt8 :=
  let names := attributes.names kind
  match kind with
  | .unsigned => encodeColumn .words names attributes.unsigned
  | .float => encodeColumn .singles names attributes.float
  | .multi => encodeColumn .words names attributes.multi
  | .string => encodeColumn .texts names attributes.string

/-- The files of an index with their bytes, in the order in which they are written. The records of the
terms stand in the order of `records`. -/
def filesOf (location : Location) (index : Index) (records : List (Term × PostingList)) :
    List (String × List UInt8) :=
  (location.indexFile, encodeRecords records) ::
    Kind.all.map fun kind => (location.columnFile kind, encodeAttributes index.attributes kind)

def writeFiles (access : FileAccess m) : List (String × List UInt8) → m (Except SearchError Unit)
  | [] => return .ok ()
  | (path, bytes) :: rest => do
    match ← access.write path bytes with
    | .ok () => writeFiles access rest
    | .error fault => return .error (.io fault.message)

/-- Stores an index. The records of its terms are in ascending order, unless they are given in another
one. -/
def save (access : FileAccess m) (location : Location) (index : Index)
    (records : List (Term × PostingList) := index.postings.entries) : m (Except SearchError Unit) :=
  writeFiles access (filesOf location index records)

def loadFault (path : String) : FileFault → SearchError
  | .notFound => .missingFile path
  | fault => .io fault.message

def fetch {α : Type} (access : FileAccess m) (decode : String → List UInt8 → Except SearchError α)
    (path : String) : ExceptT SearchError m α := do
  match ← access.read path with
  | .ok bytes => decode path bytes
  | .error fault => throw (loadFault path fault)

def loadPostings (access : FileAccess m) (location : Location) :
    ExceptT SearchError m PostingIndex :=
  fetch access decodeIndex location.indexFile

/-- Loads the attributes of an index. Every column must be as long as the unsigned one. -/
def loadAttributes (access : FileAccess m) (location : Location) :
    ExceptT SearchError m AttributeStore := do
  let (unsignedNames, unsigned) ←
    fetch access (decodeColumn .words) (location.columnFile .unsigned)
  let (floatNames, float) ← fetch access (decodeColumn .singles) (location.columnFile .float)
  AttributeStore.checkLength .float unsigned.size float.size
  let (multiNames, multi) ← fetch access (decodeColumn .words) (location.columnFile .multi)
  AttributeStore.checkLength .multi unsigned.size multi.size
  let (stringNames, string) ← fetch access (decodeColumn .texts) (location.columnFile .string)
  AttributeStore.checkLength .string unsigned.size string.size
  let names : Kind → List String
    | .unsigned => unsignedNames
    | .float => floatNames
    | .multi => multiNames
    | .string => stringNames
  return { names, unsigned, float, multi, string }

def load (access : FileAccess m) (location : Location) : ExceptT SearchError m LoadedIndex := do
  let postings ← loadPostings access location
  let attributes ← loadAttributes access location
  LoadedIndex.assemble postings attributes

end TextSearch.Storage
