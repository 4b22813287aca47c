import Mathlib.Tactic.Lemma
import TextSearch.Query.Filter

/-!
# Verdicts of filters

A filter admits a document if, for every name that some attribute has, the document has a value at the
place of the name and the value is allowed.
-/

namespace TextSearch.Proofs

theorem admitsAll_resolve_iff (filter : Filter) (attributes : AttributeStore) (d : Document) :
    admitsAll (filter.resolve attributes) d = true ↔
      ∀ entry ∈ filter.entries, ∀ kind offset, attributes.resolve entry.1 = some (kind, offset) →
        ∃ value ∈ entry.2, d.values.text? kind offset = some value := by
  have hclause : ∀ c : Clause, c.admits d = true ↔
      ∃ value ∈ c.allowed, d.values.text? c.kind c.offset = some value := by
    intro c
    simp only [Clause.admits, Option.any_eq_true, List.contains_iff_mem]
    exact ⟨fun ⟨value, htext, hmem⟩ => ⟨value, hmem, htext⟩,
      fun ⟨value, hmem, htext⟩ => ⟨value, htext, hmem⟩⟩
  simp only [admitsAll, List.all_eq_true, hclause, Filter.resolve, List.mem_filterMap,
    Option.map_eq_some_iff]
  constructor
  · intro h entry hentry kind offset hplace
    exact h ⟨kind, offset, entry.2⟩ ⟨entry, hentry, (kind, offset), hplace, rfl⟩
  · rintro h c ⟨entry, hentry, ⟨kind, offset⟩, hplace, rfl⟩
    exact h entry hentry kind offset hplace

end TextSearch.Proofs
