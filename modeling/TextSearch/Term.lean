import Std.Data.ExtTreeMap
import TextSearch.Fingerprint
import TextSearch.Utf8

/-!
# Terms and ordinals

A term is a token as the index knows it. Terms with different texts are different even where their
fingerprints agree.
-/

namespace TextSearch

/-- Documents are numbered from 0 in the order in which they are added. -/
abbrev Ordinal := UInt32

def Ordinal.next? (n : Ordinal) : Option Ordinal :=
  if n.toNat + 1 < UInt32.size then some (n + 1) else none

/-- The identifier of a document's key, the same in every index. -/
def globalKey (key : String) : UInt64 := fingerprint (Utf8.encode key)

/-- A token together with its fingerprint. -/
structure Term where
  fingerprint : UInt64
  text : String
  deriving DecidableEq, Repr

namespace Term

def ofText (text : String) : Term := ⟨TextSearch.fingerprint (Utf8.encode text), text⟩

/-- Terms are ordered by fingerprint, and by text where fingerprints agree. -/
instance : Ord Term where
  compare a b := (compare a.fingerprint b.fingerprint).then (compare a.text b.text)

instance : Std.TransOrd Term :=
  inferInstanceAs (Std.TransCmp (compareLex (compareOn fingerprint) (compareOn text)))

instance : Std.LawfulEqOrd Term where
  eq_of_compare {a b} h := by
    change (compare a.fingerprint b.fingerprint).then (compare a.text b.text) = .eq at h
    simp only [Ordering.then_eq_eq, Std.LawfulEqOrd.compare_eq_iff_eq] at h
    cases a
    cases b
    simpa using h

def le (a b : Term) : Bool := (compare a b).isLE

end Term

end TextSearch
