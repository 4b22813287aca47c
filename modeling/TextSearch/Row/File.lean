import TextSearch.Row.JsonLines
import TextSearch.Storage.FileAccess

/-!
# Rows in files

A file that cannot be opened is no source of rows. A directory can be opened, but the first row
cannot be read.
-/

namespace TextSearch.JsonLines

def openFile {m : Type → Type} [Monad m] (access : Storage.FileAccess m) (path : String) :
    m (Except SearchError RowSource) := do
  match ← access.read path with
  | .ok bytes => return .ok (rows bytes)
  | .error .isDirectory => return .ok [.error (.io Storage.FileFault.isDirectory.message)]
  | .error fault => return .error (.source s!"cannot open {path}: {fault.message}")

end TextSearch.JsonLines
