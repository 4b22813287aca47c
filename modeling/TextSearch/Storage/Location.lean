import TextSearch.Attribute.Kind

/-!
# Where an index is stored

The files of an index stand in one directory and share a name; the extension tells them apart.
-/

namespace TextSearch.Storage

/-- The path of a file in a directory. A file whose name starts with a slash stands where the name
says. -/
def joinPath (directory file : String) : String :=
  if file.startsWith "/" || directory.isEmpty then file
  else if directory.endsWith "/" then directory ++ file
  else directory ++ "/" ++ file

/-- The directory and the name of an index. -/
structure Location where
  name : String := "sieve"
  directory : String := "./data"
  deriving DecidableEq, Repr

namespace Location

/-- The path of the file with an extension. An index without a name has the usual one. -/
def file (location : Location) (extension : String) : String :=
  let name := if location.name.isEmpty then "sieve" else location.name
  joinPath location.directory (name ++ "." ++ extension)

def indexFile (location : Location) : String := location.file "lci"

def columnFile (location : Location) (kind : Kind) : String := location.file kind.extension

def files (location : Location) : List String :=
  location.indexFile :: Kind.all.map location.columnFile

end Location

end TextSearch.Storage
