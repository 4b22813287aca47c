/-!
# TOML values

A table keeps its members in the order in which they were written, and it may have several of one
name. How a table came to be decides what may be added to it later.
-/

namespace TextSearch.Toml

/-- How a table came to be. -/
inductive Origin where
  /-- It was written in braces. -/
  | inline
  /-- It was named in front of a period in the key of a member. -/
  | dotted
  /-- It was named in the header of a table within it. -/
  | implied
  /-- It has a header. -/
  | headed
  deriving DecidableEq, Repr

/-- Values. Dates are told apart from other values but not read. -/
inductive Value where
  | string (text : String)
  | integer (n : Int)
  | float
  | boolean (b : Bool)
  | date
  | array (items : List Value)
  | table (origin : Origin) (members : List (String × Value))
  /-- Tables with a header in double brackets, one for each time it stands there. -/
  | tables (elements : List (List (String × Value)))

abbrev Members := List (String × Value)

namespace Value

def isOpen : Value → Bool
  | .table origin _ => origin == .implied || origin == .headed
  | .tables _ => true
  | _ => false

def text? : Value → Option String
  | .string text => some text
  | _ => none

def flag? : Value → Option Bool
  | .boolean b => some b
  | _ => none

def count? : Value → Option Nat
  | .integer n => if 0 ≤ n then some n.toNat else none
  | _ => none

def texts? : Value → Option (List String)
  | .array items => items.mapM text?
  | _ => none

end Value

namespace Members

/-- Changes the first member that meets a condition; none if there is none or it cannot be
changed. -/
def updateFirst? (isWanted : String × Value → Bool) (f : Value → Option Value) :
    Members → Option Members
  | [] => none
  | member :: rest =>
    if isWanted member then (f member.2).map fun value => (member.1, value) :: rest
    else (updateFirst? isWanted f rest).map (member :: ·)

/-- Adds the value of a dotted key. All names but the last one name tables that only dotted keys
made. -/
def addDotted? (value : Value) : List String → Members → Option Members
  | [], _ => none
  | [name], members => some (members ++ [(name, value)])
  | name :: path, members =>
    if members.any fun member => member.1 == name then
      updateFirst? (fun member => member.1 == name)
        (fun
          | .table .dotted inner => (addDotted? value path inner).map (.table .dotted)
          | _ => none)
        members
    else
      (addDotted? value path []).map fun inner => members ++ [(name, .table .dotted inner)]

def named (name : String) (members : Members) : List Value :=
  (members.filter fun member => member.1 == name).map Prod.snd

/-- The value of a member that may be missing but must not be repeated. -/
def single? (name : String) (members : Members) : Option (Option Value) :=
  match named name members with
  | [] => some none
  | [value] => some (some value)
  | _ => none

end Members

end TextSearch.Toml
