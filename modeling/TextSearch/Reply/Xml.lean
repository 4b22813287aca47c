import TextSearch.Reply.Basic
import TextSearch.Unicode.Words

/-!
# Replies in XML

A reply is a document of elements. A field whose name cannot name an element becomes an `attr`
element that carries the name.
-/

namespace TextSearch.Reply

def escapeXmlChar (c : Char) : List Char :=
  if c == '&' then "&amp;".toList
  else if c == '<' then "&lt;".toList
  else if c == '>' then "&gt;".toList
  else if c == '"' then "&quot;".toList
  else if c == '\'' then "&apos;".toList
  else [c]

def escapeXml (s : String) : String := String.ofList (s.toList.flatMap escapeXmlChar)

/-- Whether a name starts with the letters `xml` in any case. -/
def isReserved (cs : List Char) : Bool := (cs.take 3).map Char.toLower == ['x', 'm', 'l']

def isNameChar (c : Char) : Bool := Unicode.isAlphanumeric c || c == '_' || c == '-' || c == '.'

def isElementName (name : String) : Bool :=
  match name.toList with
  | [] => false
  | c :: rest =>
    (Unicode.isAlphabetic c || c == '_') && !isReserved (c :: rest) && rest.all isNameChar

def element (name text : String) : String :=
  "<" ++ name ++ ">" ++ escapeXml text ++ "</" ++ name ++ ">"

def fieldElement (field : String × FieldValue) : String :=
  if isElementName field.1 then element field.1 field.2.toText
  else
    "<attr name=\"" ++ escapeXml field.1 ++ "\">" ++ escapeXml field.2.toText ++ "</attr>"

def itemLines (fields : Fields) : List String :=
  ["    <item>"] ++ fields.map (fun field => "      " ++ fieldElement field) ++ ["    </item>"]

def xmlLines (summary : List (String × String)) (packCost : String) (documents : List Fields) :
    List String :=
  ["<?xml version=\"1.0\" encoding=\"utf-8\"?>", "<display>"] ++
    summary.map (fun pair => "  " ++ element pair.1 pair.2) ++
    ["  <pack_cost>" ++ packCost ++ "</pack_cost>", "  <docs>"] ++ documents.flatMap itemLines ++
    ["  </docs>", "</display>"]

def xml (summary : List (String × String)) (packCost : String) (documents : List Fields) : String :=
  String.join ((xmlLines summary packCost documents).map (· ++ "\n"))

end TextSearch.Reply
