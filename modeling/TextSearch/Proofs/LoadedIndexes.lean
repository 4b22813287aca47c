import TextSearch.Index.Basic
import TextSearch.Proofs.CursorSeek
import TextSearch.Proofs.Multimaps
import TextSearch.Proofs.Outcomes

/-!
# What a loaded index promises

Postings and attributes are joined if and only if all columns are equally long and every posting list
is ascending and speaks of documents that exist.
-/

namespace TextSearch.Proofs

/-- The ordinals of a list lie below a count. -/
def Within (count : Nat) (ps : PostingList) : Prop := ∀ p ∈ ps, p.ordinal.toNat < count

instance (count : Nat) : DecidablePred (Within count) := fun ps =>
  inferInstanceAs (Decidable (∀ p ∈ ps, p.ordinal.toNat < count))

structure Consistent (postings : PostingIndex) (attributes : AttributeStore) : Prop where
  columns : ∀ kind, attributes.columnLength kind = attributes.documentCount
  ascending : ∀ term, Ascending (postings.items term)
  within : ∀ term, Within attributes.documentCount (postings.items term)

lemma checkPostings_eq_ok_iff {count : Nat} {term : Term} {previous : Option Ordinal}
    {ps : PostingList} :
    LoadedIndex.checkPostings count term previous ps = .ok () ↔
      Within count ps ∧ Ascending ps ∧ ∀ q, previous = some q → ∀ p ∈ ps, q ≤ p.ordinal := by
  induction ps generalizing previous with
  | nil => simp [LoadedIndex.checkPostings, Within, Ascending]
  | cons p ps ih =>
    have hback : previous.any (p.ordinal < ·) = true ↔ ∃ q, previous = some q ∧ p.ordinal < q := by
      cases previous <;> simp
    rw [LoadedIndex.checkPostings]
    by_cases hcount : count ≤ p.ordinal.toNat
    · have hout : ¬Within count (p :: ps) := fun h =>
        absurd (h p List.mem_cons_self) (Nat.not_lt.mpr hcount)
      simp [hcount, hout]
    · rw [if_neg hcount]
      by_cases hprev : previous.any (p.ordinal < ·) = true
      · rw [if_pos hprev]
        obtain ⟨q, hq, hlt⟩ := hback.mp hprev
        have hdown : ¬∀ q, previous = some q → ∀ r ∈ p :: ps, q ≤ r.ordinal := fun h =>
          absurd (h q hq p List.mem_cons_self) (UInt32.not_le.mpr hlt)
        simp only [reduceCtorEq, false_iff]
        exact fun h => hdown h.2.2
      · rw [if_neg hprev, ih]
        have hle : ∀ q, previous = some q → q ≤ p.ordinal := fun q hq =>
          UInt32.not_lt.mp fun hlt => hprev (hback.mpr ⟨q, hq, hlt⟩)
        simp only [Within, Ascending, List.forall_mem_cons, List.pairwise_cons, Option.some.injEq,
          forall_eq']
        constructor
        · rintro ⟨hwithin, hasc, hp⟩
          refine ⟨⟨Nat.lt_of_not_le hcount, hwithin⟩, ⟨hp, hasc⟩, ?_⟩
          intro q hq
          exact ⟨hle q hq, fun r hr => UInt32.le_trans (hle q hq) (hp r hr)⟩
        · rintro ⟨⟨-, hwithin⟩, ⟨hp, hasc⟩, -⟩
          exact ⟨hwithin, hasc, hp⟩

lemma validate_eq_ok_iff {attributes : AttributeStore} {count : Nat} :
    attributes.validate = .ok count ↔
      (∀ kind, attributes.columnLength kind = attributes.documentCount) ∧
        count = attributes.documentCount := by
  have hcheck : ∀ kind, AttributeStore.checkLength kind attributes.documentCount
      (attributes.columnLength kind) = .ok () ↔
        attributes.columnLength kind = attributes.documentCount := by
    intro kind
    unfold AttributeStore.checkLength
    split <;> simp_all
  unfold AttributeStore.validate
  rw [bind_eq_ok_iff]
  constructor
  · rintro ⟨⟨⟩, hall, hcount⟩
    refine ⟨fun kind => ?_, (Except.ok.inj hcount).symm⟩
    exact (hcheck kind).mp (forM_eq_ok_iff.mp hall kind (Kind.mem_all kind))
  · rintro ⟨hall, rfl⟩
    exact ⟨(), forM_eq_ok_iff.mpr fun kind _ => (hcheck kind).mpr (hall kind), rfl⟩

theorem assemble_eq_ok_iff {postings : PostingIndex} {attributes : AttributeStore}
    {index : LoadedIndex} :
    LoadedIndex.assemble postings attributes = .ok index ↔
      Consistent postings attributes ∧ index = ⟨postings, attributes⟩ := by
  have hlists : (∀ entry ∈ postings.entries, LoadedIndex.checkPostings attributes.documentCount
      entry.1 none entry.2 = .ok ()) ↔
        ∀ term, Within attributes.documentCount (postings.items term) ∧
          Ascending (postings.items term) := by
    rw [← forall_mem_entries_iff (P := fun ps => Within attributes.documentCount ps ∧ Ascending ps)
      ⟨by simp [Within], List.Pairwise.nil⟩]
    simp only [checkPostings_eq_ok_iff, reduceCtorEq, false_implies, implies_true, and_true]
  unfold LoadedIndex.assemble
  rw [bind_eq_ok_iff]
  constructor
  · rintro ⟨count, hcount, h⟩
    obtain ⟨hcolumns, rfl⟩ := validate_eq_ok_iff.mp hcount
    obtain ⟨⟨⟩, hall, hindex⟩ := bind_eq_ok_iff.mp h
    have hterms := hlists.mp (forM_eq_ok_iff.mp hall)
    exact ⟨⟨hcolumns, fun term => (hterms term).2, fun term => (hterms term).1⟩,
      (Except.ok.inj hindex).symm⟩
  · rintro ⟨h, rfl⟩
    refine ⟨_, validate_eq_ok_iff.mpr ⟨h.columns, rfl⟩, ?_⟩
    rw [forM_eq_ok_iff.mpr (hlists.mpr fun term => ⟨h.within term, h.ascending term⟩)]
    rfl

end TextSearch.Proofs
