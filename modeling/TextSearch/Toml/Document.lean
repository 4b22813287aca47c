import TextSearch.Toml.Section

/-!
# TOML documents

The sections of a text are put into the tables to which their headers lead. A table has at most one
header, and where tables share a header in double brackets, the last of them is meant.
-/

namespace TextSearch.Toml

/-- Changes the last element; none if there is none or it cannot be changed. -/
def updateLast? {α : Type} (f : α → Option α) : List α → Option (List α)
  | [] => none
  | [x] => (f x).map fun y => [y]
  | x :: xs => (updateLast? f xs).map (x :: ·)

def isOpenMember (name : String) (member : String × Value) : Bool :=
  member.1 == name && member.2.isOpen

def headedTable (isElement : Bool) (members : Members) : Value :=
  if isElement then .tables [members] else .table .headed members

def meetHeader? (isElement : Bool) (members : Members) : Value → Option Value
  | .table .implied inner => if isElement then none else some (.table .headed (inner ++ members))
  | .tables elements => if isElement then some (.tables (elements ++ [members])) else none
  | _ => none

/-- Puts the members of a section into the table to which its path leads. -/
def insert? (isElement : Bool) (found : Members) : List String → Members → Option Members
  | [], members => some (members ++ found)
  | [name], members =>
    if members.any (isOpenMember name) then
      Members.updateFirst? (isOpenMember name) (meetHeader? isElement found) members
    else some (members ++ [(name, headedTable isElement found)])
  | name :: path, members =>
    if members.any (isOpenMember name) then
      Members.updateFirst? (isOpenMember name)
        (fun
          | .table origin inner => (insert? isElement found path inner).map (.table origin)
          | .tables elements => (updateLast? (insert? isElement found path) elements).map .tables
          | _ => none)
        members
    else
      (insert? isElement found path []).map fun inner =>
        members ++ [(name, .table .implied inner)]

def assemble? (sections : List Section) : Option Members :=
  sections.foldlM (fun members s => insert? s.isElement s.members s.path members) []

def parse? (text : String) : Option Members := do
  assemble? (← sections? (← tokens? text))

end TextSearch.Toml
