import TextSearch.Attribute.Store
import TextSearch.Decimal.Numeral
import TextSearch.Row
import TextSearch.Text.Pieces

/-!
# Raw attribute values

The raw texts of a row become attribute values. A column that the row lacks counts as empty. Numbers
are what the text starts with; texts are taken as they are.
-/

namespace TextSearch

def unsignedValue (raw : List Char) : UInt32 := Decimal.unsignedPrefixValue (Unicode.trimBlanks raw)

def floatValue (raw : List Char) : Decimal.Single :=
  Decimal.singlePrefixValue (Unicode.trimBlanks raw)

def multiValues (raw : List Char) : List UInt32 := (Text.trimmedPieces ',' raw).map unsignedValue

def Row.raw (row : Row) (name : String) : String := (row.text? name).getD ""

def Row.values (schema : Schema) (row : Row) : Values where
  unsigned := schema.unsigned.map fun name => unsignedValue (row.raw name).toList
  float := schema.float.map fun name => floatValue (row.raw name).toList
  multi := schema.multi.flatMap fun name => multiValues (row.raw name).toList
  string := schema.string.map row.raw

end TextSearch
