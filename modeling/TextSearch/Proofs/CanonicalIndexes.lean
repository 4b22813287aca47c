import TextSearch.Proofs.IndexGrammar

/-!
# Canonical index files

An index has one sorted file, whatever the order in which its terms were added or are listed. The sorted
file of an index that was read is read as the same index, and bytes that were sorted before are kept.
-/

namespace TextSearch.Proofs
open Storage

/-- By fingerprint, and by text where fingerprints agree. -/
def Precedes (a b : Term) : Prop :=
  a.fingerprint < b.fingerprint ∨ a.fingerprint = b.fingerprint ∧ a.text < b.text

lemma precedes_iff {a b : Term} : Precedes a b ↔ compare a b = .lt := by
  have htext : compare a.text b.text = .lt ↔ a.text < b.text := compareOfLessAndEq_eq_lt
  have hcompare : compare a b = (compare a.fingerprint b.fingerprint).then (compare a.text b.text) := rfl
  rw [hcompare, Ordering.then_eq_lt, Std.compare_eq_lt, Std.LawfulEqOrd.compare_eq_iff_eq, htext]
  rfl

/-- Records of different terms in ascending order. -/
def AscendingTerms (records : List (Term × PostingList)) : Prop :=
  records.Pairwise fun a b => Precedes a.1 b.1

lemma ascending_iff {records : List (Term × PostingList)} :
    AscendingTerms records ↔ records.Pairwise fun a b => compare a.1 b.1 = .lt := by
  unfold AscendingTerms
  simp only [precedes_iff]

/-- The file of some entries, which may be listed in any order. -/
def sortedFile (listed : List (Term × PostingList)) : List UInt8 :=
  encodeRecords (listed.mergeSort fun a b => a.1.le b.1)

lemma sortedFile_eq {index : PostingIndex} {listed : List (Term × PostingList)}
    (h : listed.Perm index.entries) : sortedFile listed = encodeIndex index := by
  unfold sortedFile encodeIndex Term.le
  rw [mergeSort_eq_entries h]

/-- An index whose sizes fit into the fields of its file. -/
structure Storable (index : PostingIndex) : Prop where
  texts : ∀ record ∈ index.entries, Utf8.size record.1.text < UInt32.size
  counts : ∀ record ∈ index.entries, record.2.length < UInt32.size
  made : ∀ record ∈ index.entries, ∀ p ∈ record.2, Made p

lemma Storable.fitsRecord {index : PostingIndex} (h : Storable index) :
    ∀ record ∈ index.entries, FitsRecord record := fun record hrecord =>
  ⟨h.texts record hrecord, h.counts record hrecord, fun p hp =>
    (h.made record hrecord p hp).payloadFault?_eq_none⟩

lemma Storable.encodeIndex_eq_iff {index other : PostingIndex} (h : Storable index)
    (h' : Storable other) : encodeIndex index = encodeIndex other ↔ index = other := by
  constructor
  · intro hbytes
    exact Multimap.ext_entries (encodeRecords_injective h.fitsRecord h'.fitsRecord hbytes)
  · rintro rfl
    rfl

lemma eq_iff_items {index other : PostingIndex} :
    index = other ↔ ∀ term, index.contains term = other.contains term ∧
      index.items term = other.items term := by
  constructor
  · rintro rfl
    exact fun term => ⟨rfl, rfl⟩
  · intro h
    refine Multimap.ext_items? fun term => ?_
    obtain ⟨hcontains, hitems⟩ := h term
    unfold Multimap.contains Multimap.items at *
    cases hone : index.items? term <;> cases hother : other.items? term <;> simp_all

/-! ### Bytes that were read -/

lemma length_itemsFor_le (records : List (Term × PostingList)) (term : Term) :
    (itemsFor term records).flatten.length ≤ (encodeRecords records).length := by
  induction records with
  | nil => exact Nat.le_refl _
  | cons record records ih =>
    have hrecord := length_encodeTermRecord_ge record
    rw [encodeRecords_cons, List.length_append, itemsFor_cons]
    split
    · rw [List.flatten_cons, List.length_append]
      omega
    · omega

/-- Joined records still fit, as a file of fewer than 2^32 bytes has fewer postings. -/
lemma fitsRecord_of_mem_gathered {records : List (Term × PostingList)}
    (hfits : ∀ record ∈ records, FitsRecord record)
    (hsize : (encodeRecords records).length < UInt32.size) :
    ∀ record ∈ (gathered records).entries, FitsRecord record := by
  rintro ⟨term, ps⟩ hmem
  have hitems := Multimap.mem_entries.mp hmem
  rw [items?_gathered] at hitems
  split at hitems
  · exact absurd hitems (by simp)
  · rename_i hne
    obtain rfl := Option.some.inj hitems
    obtain ⟨record, hrecord, rfl⟩ := List.mem_map.mp (itemsFor_ne_nil_iff.mp hne)
    refine ⟨(hfits record hrecord).text, ?_, ?_⟩
    · have hle := length_itemsFor_le records record.1
      exact Nat.lt_of_le_of_lt hle hsize
    · intro p hp
      obtain ⟨ps, hps, hp⟩ := List.mem_flatten.mp hp
      obtain ⟨source, hsource, rfl⟩ := List.mem_map.mp hps
      exact (hfits source (List.mem_of_mem_filter hsource)).payloads p hp

lemma entries_gathered {records : List (Term × PostingList)} (h : AscendingTerms records) :
    (gathered records).entries = records := by
  have hlt := ascending_iff.mp h
  have hne : records.Pairwise fun a b => a.1 ≠ b.1 := by
    refine hlt.imp fun {a b} hab he => ?_
    rw [he, Std.compare_self] at hab
    exact absurd hab (by decide)
  exact entries_eq_of_mem_iff hlt (mem_entries_foldl_addAll hne)

/-- What is sorted again after it was read. -/
structure Resorts (bytes : List UInt8) (index : PostingIndex) : Prop where
  decoded : ∀ path, decodeIndex path (encodeIndex index) = .ok index
  encoded : ∀ path, (decodeIndex path (encodeIndex index)).map encodeIndex = .ok (encodeIndex index)
  kept : ∀ split, IsSplit RecordForm bytes split → AscendingTerms (split.map Prod.snd) →
    encodeIndex index = bytes

lemma resorts_of_decodeIndex {path : String} {bytes : List UInt8} {index : PostingIndex}
    (hsize : bytes.length < UInt32.size) (h : decodeIndex path bytes = .ok index) :
    Resorts bytes index := by
  obtain ⟨split, hsplit, rfl⟩ := decodeIndex_eq_ok_iff.mp h
  obtain ⟨records, hfits, rfl, rfl⟩ := isSplit_records_iff.mp hsplit
  rw [map_snd_written]
  have hread : ∀ path, decodeIndex path (encodeIndex (gathered records)) = .ok (gathered records) :=
    decodeIndex_encodeRecords (List.Perm.refl _) (fitsRecord_of_mem_gathered hfits hsize)
  refine ⟨hread, fun path => by rw [hread path]; rfl, ?_⟩
  intro other hother hascending
  -- Bytes are cut into records in one way, so these are the records that were read.
  obtain rfl := isSplit_records_unique hsplit hother
  rw [map_snd_written] at hascending
  rw [encodeIndex, entries_gathered hascending]

/-- The sorted file is a canonical form of an index. Two indexes have the same file if and only if they
have the same terms with the same postings, however they came about and in whatever order their entries
are listed; the records of the file ascend strictly. Bytes that are read as an index are sorted once and
for all, and not changed if their records ascend already. -/
theorem sorted_file_is_canonical :
    (∀ calls others : List (Addition Term Posting), Storable (filled calls) → Storable (filled others) →
      ∀ listed listed', listed.Perm (filled calls).entries → listed'.Perm (filled others).entries →
        (sortedFile listed = sortedFile listed' ↔
          ∀ term, (filled calls).contains term = (filled others).contains term ∧
            (filled calls).items term = (filled others).items term)) ∧
    (∀ (index : PostingIndex), Storable index → ∀ listed, listed.Perm index.entries →
      sortedFile listed = encodeIndex index ∧
        ∃ split, IsSplit RecordForm (encodeIndex index) split ∧ AscendingTerms (split.map Prod.snd)) ∧
    ∀ (path : String) (bytes : List UInt8) (index : PostingIndex), bytes.length < UInt32.size →
      decodeIndex path bytes = .ok index → Resorts bytes index := by
  refine ⟨?_, ?_, fun path bytes index => resorts_of_decodeIndex⟩
  · intro calls others hcalls hothers listed listed' hlisted hlisted'
    rw [sortedFile_eq hlisted, sortedFile_eq hlisted', hcalls.encodeIndex_eq_iff hothers, eq_iff_items]
  · intro index hindex listed hlisted
    have hsplit := isSplit_records_iff.mpr ⟨index.entries, hindex.fitsRecord, rfl, rfl⟩
    refine ⟨sortedFile_eq hlisted, _, hsplit, ?_⟩
    rw [map_snd_written]
    exact ascending_iff.mpr index.ascending_entries

/-- Three terms, two of which have one fingerprint, added in two ways. -/
def noted : List (Addition Term Posting) :=
  [.one ⟨7, "b"⟩ (Posting.pack 2 [⟨0, [1, 4]⟩]), .many ⟨7, "a"⟩ [], .one ⟨3, "é"⟩ (Posting.pack 0 []),
    .many ⟨7, "b"⟩ [Posting.pack 9 [⟨1, [8]⟩]]]

def notedAgain : List (Addition Term Posting) :=
  [.many ⟨3, "é"⟩ [Posting.pack 0 []],
    .many ⟨7, "b"⟩ [Posting.pack 2 [⟨0, [1, 4]⟩], Posting.pack 9 [⟨1, [8]⟩]], .many ⟨7, "a"⟩ []]

def notedEntries : List (Term × PostingList) :=
  [(⟨3, "é"⟩, [Posting.pack 0 []]), (⟨7, "a"⟩, []),
    (⟨7, "b"⟩, [Posting.pack 2 [⟨0, [1, 4]⟩], Posting.pack 9 [⟨1, [8]⟩]])]

lemma entries_noted : (filled noted).entries = notedEntries := by
  decide +kernel

lemma entries_notedAgain : (filled notedAgain).entries = notedEntries := by
  decide +kernel

lemma storable_of_entries {index : PostingIndex} (h : index.entries = notedEntries) : Storable index where
  texts := by
    rw [h]
    decide
  counts := by
    rw [h]
    decide
  made := by
    rw [h]
    simp [notedEntries, Made.packed]

/-- Entries in two orders, and a file whose records ascend. -/
theorem sorted_file_is_canonical_noted :
    Storable (filled noted) ∧ Storable (filled notedAgain) ∧
      notedEntries.reverse.Perm (filled noted).entries ∧ notedEntries.Perm (filled notedAgain).entries ∧
      sortedFile notedEntries.reverse = sortedFile notedEntries ∧
      sortedFile notedEntries.reverse = encodeIndex (filled noted) ∧
      (encodeRecords notedEntries).length < UInt32.size ∧
      decodeIndex "animals.lci" (encodeRecords notedEntries) = .ok (filled noted) ∧
      encodeIndex (filled noted) = encodeRecords notedEntries := by
  obtain ⟨hsame, hlists, hread⟩ := sorted_file_is_canonical
  have hnoted := storable_of_entries entries_noted
  have hagain := storable_of_entries entries_notedAgain
  have hone : notedEntries.reverse.Perm (filled noted).entries := by
    rw [entries_noted]
    exact List.reverse_perm _
  have hother : notedEntries.Perm (filled notedAgain).entries := by
    rw [entries_notedAgain]
  have heq : filled noted = filled notedAgain := by
    refine Multimap.ext_items? fun term => Option.ext fun items => ?_
    rw [← Multimap.mem_entries, ← Multimap.mem_entries, entries_noted, entries_notedAgain]
  have hbytes := (hsame noted notedAgain hnoted hagain _ _ hone hother).mpr (eq_iff_items.mp heq)
  have hfits : ∀ record ∈ notedEntries, FitsRecord record := entries_noted ▸ hnoted.fitsRecord
  have hsplit := isSplit_records_iff.mpr ⟨notedEntries, hfits, rfl, rfl⟩
  have hdecode : decodeIndex "animals.lci" (encodeRecords notedEntries) = .ok (filled noted) :=
    decodeIndex_encodeRecords (hother.trans (by rw [heq])) hfits _
  have hsize : (encodeRecords notedEntries).length < UInt32.size := by decide
  have hascending : AscendingTerms notedEntries := by
    rw [← entries_noted]
    exact ascending_iff.mpr (filled noted).ascending_entries
  have hkept := (hread "animals.lci" _ _ hsize hdecode).kept _ hsplit (by rwa [map_snd_written])
  exact ⟨hnoted, hagain, hone, hother, hbytes, (hlists _ hnoted _ hone).1, hsize, hdecode, hkept⟩

end TextSearch.Proofs
