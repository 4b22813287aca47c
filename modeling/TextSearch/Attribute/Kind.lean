/-!
# Kinds of attributes

A document carries values of four kinds. Each kind has a column of its own and a file of its own.
-/

namespace TextSearch

/-- The kinds of attribute values. -/
inductive Kind where
  | unsigned
  | float
  | multi
  | string
  deriving DecidableEq, Repr

namespace Kind

def all : List Kind := [.unsigned, .float, .multi, .string]

def name : Kind → String
  | .unsigned => "unsigned"
  | .float => "float"
  | .multi => "multi"
  | .string => "string"

def extension : Kind → String
  | .unsigned => "lcu"
  | .float => "lcf"
  | .multi => "lcm"
  | .string => "lcs"

theorem mem_all (k : Kind) : k ∈ all := by cases k <;> simp [all]

end Kind

end TextSearch
