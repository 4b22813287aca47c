import Std.Data.ExtTreeMap

/-!
# Multimaps

A multimap keeps a list of items for each of its keys. Items are only ever appended. Multimaps with
the same items for the same keys are equal, whatever the order in which the keys were first used.
-/

namespace TextSearch

/-- Lists of items by key. The table has the latest item of a key first, so that appending takes the
same time however many there are. -/
structure Multimap (κ α : Type) [Ord κ] [Std.TransOrd κ] where
  table : Std.ExtTreeMap κ (List α)

namespace Multimap

variable {κ α : Type} [Ord κ] [Std.TransOrd κ]

/-- The multimap without keys. -/
def empty : Multimap κ α := ⟨∅⟩

instance : EmptyCollection (Multimap κ α) := ⟨empty⟩

/-- Appends items to those of a key. An empty batch makes the key known all the same. -/
def addAll (m : Multimap κ α) (key : κ) (items : List α) : Multimap κ α :=
  ⟨m.table.alter key fun known => some (items.reverse ++ known.getD [])⟩

def add (m : Multimap κ α) (key : κ) (item : α) : Multimap κ α := m.addAll key [item]

/-- The keys with their items, in ascending order of the keys. -/
def entries (m : Multimap κ α) : List (κ × List α) :=
  m.table.toList.map fun entry => (entry.1, entry.2.reverse)

/-- The keys in ascending order, each once. -/
def keys (m : Multimap κ α) : List κ := m.table.keys

def items? (m : Multimap κ α) (key : κ) : Option (List α) := m.table[key]?.map List.reverse

/-- The items of a key; none if it is not known. -/
def items (m : Multimap κ α) (key : κ) : List α := (m.items? key).getD []

/-- Appends items to those of a key and tells how many it has then. -/
def extend (m : Multimap κ α) (key : κ) (items : List α) : Multimap κ α × Nat :=
  (m.addAll key items, ((m.addAll key items).items key).length)

def contains (m : Multimap κ α) (key : κ) : Bool := (m.items? key).isSome

def size (m : Multimap κ α) : Nat := m.table.size

def isEmpty (m : Multimap κ α) : Bool := m.table.isEmpty

def itemCount (m : Multimap κ α) : Nat := (m.entries.flatMap Prod.snd).length

@[simp] theorem items?_empty (key : κ) : (empty : Multimap κ α).items? key = none := by
  simp [empty, items?]

theorem items?_addAll [Std.LawfulEqOrd κ] [DecidableEq κ] (m : Multimap κ α) (key k : κ)
    (items : List α) :
    (m.addAll key items).items? k =
      if key = k then some (m.items key ++ items) else m.items? k := by
  simp only [addAll, Multimap.items?, Multimap.items, Std.ExtTreeMap.getElem?_alter,
    Std.LawfulEqOrd.compare_eq_iff_eq]
  split
  · cases m.table[key]? <;> simp
  · rfl

/-- Nothing but the items of each key matters. -/
theorem ext_items? [Std.LawfulEqOrd κ] {m n : Multimap κ α} (h : ∀ key, m.items? key = n.items? key) :
    m = n := by
  cases m
  cases n
  congr 1
  refine Std.ExtTreeMap.ext_getElem? fun key => ?_
  have hk := h key
  simp only [items?] at hk
  exact Option.map_injective (fun _ _ h => List.reverse_inj.mp h) hk

theorem mem_entries [Std.LawfulEqOrd κ] {m : Multimap κ α} {key : κ} {items : List α} :
    (key, items) ∈ m.entries ↔ m.items? key = some items := by
  simp only [entries, List.mem_map, Prod.exists, Prod.mk.injEq,
    Std.ExtTreeMap.mem_toList_iff_getElem?_eq_some, Multimap.items?, Option.map_eq_some_iff]
  constructor
  · rintro ⟨k, xs, h, rfl, hx⟩
    exact ⟨xs, h, hx⟩
  · rintro ⟨xs, h, hx⟩
    exact ⟨key, xs, h, rfl, hx⟩

theorem ext_entries [Std.LawfulEqOrd κ] {m n : Multimap κ α} (h : m.entries = n.entries) : m = n := by
  refine ext_items? fun key => Option.ext fun items => ?_
  rw [← mem_entries, ← mem_entries, h]

theorem length_entries (m : Multimap κ α) : m.entries.length = m.size := by
  simp [entries, size, Std.ExtTreeMap.length_toList]

/-- The entries stand in strictly ascending order of their keys. -/
theorem ascending_entries (m : Multimap κ α) :
    m.entries.Pairwise fun a b => compare a.1 b.1 = .lt := by
  simpa [entries, List.pairwise_map] using m.table.ordered_keys_toList

end Multimap

end TextSearch
