import TextSearch.Error

/-!
# Rows

A row gives one document to be indexed, as raw texts in named columns.
-/

namespace TextSearch

abbrev Row := List (String × String)

def Row.text? (row : Row) (name : String) : Option String :=
  (row.find? fun field => field.1 = name).map Prod.snd

def Row.columns (row : Row) : List String := row.map Prod.fst

/-- What reading rows gives, one result after the other until the source is at its end. Reading can
go on after an error. -/
abbrev RowSource := List (Except SearchError Row)

end TextSearch
