import Mathlib.Data.List.Infix
import TextSearch.Proofs.IndexFiles

/-!
# Index files that were cut

An index file does not say how many records it has. If bytes are missing at its end, reading it fails
unless the cut lies between two records; then the records before the cut are read, all of them whole.
-/

namespace TextSearch.Proofs
open Storage

/-- Whole records and then a part of one more. -/
lemma readRecords_cut {front : List (Term × PostingList)} {record : Term × PostingList}
    (hfront : ∀ other ∈ front, FitsRecord other) (hrecord : FitsRecord record) (path : String)
    (offset : Nat) {j fuel : Nat} (hpos : 0 < j) (hj : j < (encodeTermRecord record).length)
    (hfuel : (encodeRecords front).length + j ≤ fuel) :
    EndsEarly (readRecords fuel ⟨path, offset, encodeRecords front ++ (encodeTermRecord record).take j⟩)
      path (offset + (encodeRecords front).length + j) := by
  have htaken : ((encodeTermRecord record).take j).length = j := List.length_take_of_le (Nat.le_of_lt hj)
  have hwhole : (encodeRecords front ++ (encodeTermRecord record).take j).length ≤ fuel := by
    rwa [List.length_append, htaken]
  obtain ⟨left, hleft, hread⟩ := readRecords_append hfront path offset _ hwhole
  rw [htaken] at hleft
  obtain ⟨left, rfl⟩ : ∃ n, left = n + 1 := ⟨left - 1, by omega⟩
  have hmore : Reader.isEmpty ⟨path, offset + (encodeRecords front).length,
      (encodeTermRecord record).take j⟩ = false := by
    rw [Reader.isEmpty, List.isEmpty_eq_false_iff, ← List.length_pos_iff, htaken]
    exact hpos
  have hcut := (reads_termRecord hrecord).noticesCut path (offset + (encodeRecords front).length) j hj
  rw [hread, readRecords, hmore]
  exact (hcut.bind _).bind _

/-- Every cut of a file lies in one of its records, if the start of a record counts as a place in
it. -/
lemma exists_record_at {records : List (Term × PostingList)} {k : Nat}
    (hk : k < (encodeRecords records).length) :
    ∃ front record back j, records = front ++ record :: back ∧ j < (encodeTermRecord record).length ∧
      k = (encodeRecords front).length + j ∧
      (encodeRecords records).take k = encodeRecords front ++ (encodeTermRecord record).take j := by
  induction records generalizing k with
  | nil => exact absurd hk (Nat.not_lt_zero k)
  | cons first records ih =>
    rw [encodeRecords_cons, List.length_append] at hk
    by_cases hin : k < (encodeTermRecord first).length
    · refine ⟨[], first, records, k, rfl, hin, (Nat.zero_add k).symm, ?_⟩
      rw [encodeRecords_cons, List.take_append_of_le_length (Nat.le_of_lt hin)]
      rfl
    · obtain ⟨front, record, back, j, rfl, hj, hsum, htake⟩ :=
        ih (k := k - (encodeTermRecord first).length) (by omega)
      refine ⟨first :: front, record, back, j, rfl, hj, ?_, ?_⟩
      · rw [encodeRecords_cons, List.length_append]
        omega
      · rw [encodeRecords_cons, encodeRecords_cons, List.append_assoc, ← htake, List.take_append,
          List.take_of_length_le (by omega)]

/-- Whether a cut after `k` bytes leaves whole records only. -/
def IsBoundary (records : List (Term × PostingList)) (k : Nat) : Prop :=
  ∃ front, front <+: records ∧ k = (encodeRecords front).length

lemma take_encodeRecords {front records : List (Term × PostingList)} (h : front <+: records) :
    (encodeRecords records).take (encodeRecords front).length = encodeRecords front := by
  obtain ⟨back, rfl⟩ := h
  have hbytes : encodeRecords (front ++ back) = encodeRecords front ++ encodeRecords back :=
    List.flatMap_append
  rw [hbytes, List.take_left]

/-- A cut that is no boundary is noticed. -/
lemma decodeIndex_cut {records : List (Term × PostingList)}
    (hfits : ∀ record ∈ records, FitsRecord record) (path : String) {k : Nat}
    (hk : k < (encodeRecords records).length) (hno : ¬IsBoundary records k) :
    EndsEarly (decodeIndex path ((encodeRecords records).take k)) path k := by
  obtain ⟨front, record, back, j, rfl, hj, hsum, htake⟩ := exists_record_at hk
  have hpos : 0 < j := by
    rcases Nat.eq_zero_or_pos j with rfl | hpos
    · exact absurd ⟨front, List.prefix_append front _, hsum⟩ hno
    · exact hpos
  have hfront : ∀ other ∈ front, FitsRecord other := fun other hother =>
    hfits other (List.mem_append_left _ hother)
  have hrecord : FitsRecord record := hfits record (List.mem_append_right _ List.mem_cons_self)
  have hfuel : (encodeRecords front).length + j ≤
      (encodeRecords front ++ (encodeTermRecord record).take j).length := by
    rw [List.length_append, List.length_take, Nat.min_eq_left (Nat.le_of_lt hj)]
  have hread := readRecords_cut hfront hrecord path 0 hpos hj hfuel
  rw [Nat.zero_add, ← hsum] at hread
  unfold decodeIndex Reader.ofBytes
  rw [htake]
  exact hread.bind _

/-- Records of different terms that are kept whole. -/
lemma decodeIndex_boundary {front : List (Term × PostingList)}
    (hfits : ∀ record ∈ front, FitsRecord record) (hdistinct : front.Pairwise fun a b => a.1 ≠ b.1)
    (path : String) : ∃ kept, decodeIndex path (encodeRecords front) = .ok kept ∧
      ∀ record, record ∈ kept.entries ↔ record ∈ front := by
  refine ⟨_, ?_, mem_entries_foldl_addAll hdistinct⟩
  unfold decodeIndex Reader.ofBytes
  rw [readRecords_encodeRecords hfits path 0 (Nat.le_refl _), ok_bind]
  rfl

/-- The file of an index, with its records in any order, is cut after `k` bytes. If the cut lies between
two records, or before the first of them, the records in front of it are read, each with all its postings.
Everywhere else reading fails, and only because bytes are missing behind the cut. -/
theorem cut_index_keeps_whole_records {index : PostingIndex}
    (htexts : ∀ record ∈ index.entries, Utf8.size record.1.text < UInt32.size)
    (hcounts : ∀ record ∈ index.entries, record.2.length < UInt32.size)
    (hmade : ∀ record ∈ index.entries, ∀ p ∈ record.2, Made p)
    {records : List (Term × PostingList)} (horder : records.Perm index.entries) (path : String)
    {k : Nat} (hk : k < (encodeRecords records).length) :
    let result := decodeIndex path ((encodeRecords records).take k)
    ((∃ kept, result = .ok kept) ↔ IsBoundary records k) ∧
    (∀ front, front <+: records → k = (encodeRecords front).length →
      ∃ kept, result = .ok kept ∧ ∀ record, record ∈ kept.entries ↔ record ∈ front) ∧
    (¬IsBoundary records k → ∃ offset needed, result = .error (.truncated path offset needed) ∧
      offset ≤ k ∧ k < offset + needed) ∧
    ∀ kept, result = .ok kept → ∀ record ∈ kept.entries, record ∈ index.entries := by
  have hfits : ∀ record ∈ records, FitsRecord record := fun record hrecord =>
    have hmem := horder.subset hrecord
    ⟨htexts record hmem, hcounts record hmem, fun p hp => (hmade record hmem p hp).payloadFault?_eq_none⟩
  have hboundary : ∀ front, front <+: records → k = (encodeRecords front).length →
      ∃ kept, decodeIndex path ((encodeRecords records).take k) = .ok kept ∧
        ∀ record, record ∈ kept.entries ↔ record ∈ front := by
    rintro front hfront rfl
    rw [take_encodeRecords hfront]
    exact decodeIndex_boundary (fun record hrecord => hfits record (hfront.subset hrecord))
      ((pairwise_ne_entries horder).sublist hfront.sublist) path
  have hcut : ¬IsBoundary records k →
      EndsEarly (decodeIndex path ((encodeRecords records).take k)) path k :=
    decodeIndex_cut hfits path hk
  have hkept : ∀ kept, decodeIndex path ((encodeRecords records).take k) = .ok kept →
      IsBoundary records k := by
    intro kept hok
    by_contra hno
    obtain ⟨offset, needed, herror, -⟩ := hcut hno
    rw [hok] at herror
    exact absurd herror (by simp)
  refine ⟨⟨fun ⟨kept, hok⟩ => hkept kept hok, ?_⟩, hboundary, hcut, ?_⟩
  · rintro ⟨front, hfront, hlength⟩
    obtain ⟨kept, hok, -⟩ := hboundary front hfront hlength
    exact ⟨kept, hok⟩
  · intro kept hok record hrecord
    obtain ⟨front, hfront, hlength⟩ := hkept kept hok
    obtain ⟨other, hother, hmem⟩ := hboundary front hfront hlength
    obtain rfl := Except.ok.inj (hok.symm.trans hother)
    exact horder.subset (hfront.subset ((hmem record).mp hrecord))

/-- Two terms, the first of them without a text and without postings. -/
def twoTerms : PostingIndex :=
  (Multimap.empty.addAll ⟨7, "é"⟩ [Posting.pack 2 [⟨0, [1, 4]⟩], Posting.pack 5 []]).addAll ⟨3, ""⟩ []

lemma entries_twoTerms : twoTerms.entries =
    [(⟨3, ""⟩, []), (⟨7, "é"⟩, [Posting.pack 2 [⟨0, [1, 4]⟩], Posting.pack 5 []])] := by
  decide +kernel

/-- The file of two terms is cut behind the first record, and then between the two bytes of a text. -/
theorem cut_index_keeps_whole_records_two_terms :
    (∀ record ∈ twoTerms.entries, Utf8.size record.1.text < UInt32.size) ∧
      (∀ record ∈ twoTerms.entries, record.2.length < UInt32.size) ∧
      (∀ record ∈ twoTerms.entries, ∀ p ∈ record.2, Made p) ∧
      (encodeRecords twoTerms.entries).length = 48 ∧
      (∃ kept, decodeIndex "animals.lci" ((encodeRecords twoTerms.entries).take 16) = .ok kept ∧
        ∀ record, record ∈ kept.entries ↔ record ∈ [((⟨3, ""⟩ : Term), ([] : PostingList))]) ∧
      ∃ offset needed, decodeIndex "animals.lci" ((encodeRecords twoTerms.entries).take 29) =
        .error (.truncated "animals.lci" offset needed) ∧ offset ≤ 29 ∧ 29 < offset + needed := by
  have htexts : ∀ record ∈ twoTerms.entries, Utf8.size record.1.text < UInt32.size := by
    rw [entries_twoTerms]
    decide
  have hcounts : ∀ record ∈ twoTerms.entries, record.2.length < UInt32.size := by
    rw [entries_twoTerms]
    decide
  have hmade : ∀ record ∈ twoTerms.entries, ∀ p ∈ record.2, Made p := by
    rw [entries_twoTerms]
    simp [Made.packed]
  have hlength : (encodeRecords twoTerms.entries).length = 48 := by
    rw [entries_twoTerms]
    decide
  have hno : ¬IsBoundary twoTerms.entries 29 := by
    rw [entries_twoTerms]
    rintro ⟨front, hfront, hk⟩
    rw [← List.mem_inits] at hfront
    revert front
    decide
  obtain ⟨-, hbehind, -⟩ := cut_index_keeps_whole_records htexts hcounts hmade (List.Perm.refl _)
    "animals.lci" (hlength ▸ by decide : 16 < (encodeRecords twoTerms.entries).length)
  obtain ⟨-, -, hwithin, -⟩ := cut_index_keeps_whole_records htexts hcounts hmade (List.Perm.refl _)
    "animals.lci" (hlength ▸ by decide : 29 < (encodeRecords twoTerms.entries).length)
  refine ⟨htexts, hcounts, hmade, hlength, hbehind _ ?_ (by decide), hwithin hno⟩
  rw [entries_twoTerms]
  exact List.prefix_append [_] _

end TextSearch.Proofs
