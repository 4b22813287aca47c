import TextSearch.Proofs.Multimaps
import TextSearch.Proofs.PackedPayloads
import TextSearch.Proofs.ReaderRuns
import TextSearch.Storage.IndexFile

/-!
# Index files

The file of the postings gives them back, whatever the order of its records.
-/

namespace TextSearch.Proofs
open Storage

/-- A record whose counts fit into their bytes. -/
structure FitsRecord (record : Term × PostingList) : Prop where
  text : Utf8.size record.1.text < UInt32.size
  postings : record.2.length < UInt32.size
  payloads : ∀ p ∈ record.2, payloadFault? p.payload = none

lemma reads_posting (term : Term) {p : Posting} (h : payloadFault? p.payload = none) :
    ReadsExactly (readPosting term) (encodePosting p) p := by
  have hbytes : encodePosting p = LittleEndian.word32 p.ordinal ++ ([p.size] ++ p.payload) := rfl
  rw [hbytes]
  refine (reads_word32 p.ordinal).bind ((reads_byte p.size).bind ?_)
  dsimp only
  rw [toNat_size h]
  refine (reads_bytes p.payload).finish fun _ r => ?_
  dsimp only
  rw [ofPayload_eq_ok_iff.mpr ⟨h, rfl⟩]
  rfl

lemma reads_termRecord {record : Term × PostingList} (h : FitsRecord record) :
    ReadsExactly readTermRecord (encodeTermRecord record) record := by
  obtain ⟨term, ps⟩ := record
  have hcount : (UInt32.ofNat ps.length).toNat = ps.length := UInt32.toNat_ofNat_of_lt' h.postings
  have hpostings := reads_many id fun p hp => reads_posting term (h.payloads p hp)
  rw [List.map_id] at hpostings
  unfold encodeTermRecord
  simp only [List.append_assoc]
  refine (reads_word64 term.fingerprint).bind ((reads_small h.text).bind ?_)
  dsimp only
  rw [toNat_ofNat_size h.text]
  refine (reads_bytes (Utf8.encode term.text)).bind ?_
  simp only [text_encode, ok_bind]
  refine (reads_small h.postings).bind ?_
  dsimp only
  rw [hcount]
  exact hpostings.finish fun _ _ => rfl

lemma encodeTermRecord_ne_nil (record : Term × PostingList) : encodeTermRecord record ≠ [] := by
  simp [encodeTermRecord, LittleEndian.word64, LittleEndian.encode]

lemma mul_length_le_flatMap {α β : Type} {f : α → List β} {least : Nat} {xs : List α}
    (h : ∀ x ∈ xs, least ≤ (f x).length) : least * xs.length ≤ (xs.flatMap f).length := by
  induction xs with
  | nil => exact Nat.le_refl _
  | cons x xs ih =>
    obtain ⟨hx, hrest⟩ := List.forall_mem_cons.mp h
    have hxs := ih hrest
    rw [List.flatMap_cons, List.length_append, List.length_cons, Nat.mul_succ]
    omega

/-- A record takes 16 bytes besides its text, and 5 bytes for a posting besides the payload. -/
lemma length_encodeTermRecord_ge (record : Term × PostingList) :
    16 + 5 * record.2.length ≤ (encodeTermRecord record).length := by
  have hposting : ∀ p ∈ record.2, 5 ≤ (encodePosting p).length := by
    intro p _
    simp only [encodePosting, LittleEndian.word32, List.length_append, LittleEndian.length_encode,
      List.length_cons]
    omega
  have hpostings := mul_length_le_flatMap hposting
  simp only [encodeTermRecord, LittleEndian.word64, List.length_append, LittleEndian.length_encode]
  omega

lemma encodeRecords_cons (record : Term × PostingList) (records : List (Term × PostingList)) :
    encodeRecords (record :: records) = encodeTermRecord record ++ encodeRecords records :=
  List.flatMap_cons

lemma readRecords_record {record : Term × PostingList} (h : FitsRecord record) (fuel : Nat)
    (path : String) (offset : Nat) (rest : List UInt8) :
    readRecords (fuel + 1) ⟨path, offset, encodeTermRecord record ++ rest⟩ =
      readRecords fuel ⟨path, offset + (encodeTermRecord record).length, rest⟩ >>= fun records =>
        .ok (record :: records) := by
  have hrecord := (reads_termRecord h).reads path offset rest
  have hmore : Reader.isEmpty ⟨path, offset, encodeTermRecord record ++ rest⟩ = false := by
    simp [Reader.isEmpty, encodeTermRecord_ne_nil]
  rw [readRecords, hmore, hrecord]
  rfl

/-- Whole records in front are read. Each takes a byte at least, so the bytes behind them have the fuel that
they need. -/
lemma readRecords_append {front : List (Term × PostingList)}
    (hfits : ∀ record ∈ front, FitsRecord record) (path : String) (offset : Nat) (rest : List UInt8)
    {fuel : Nat} (hfuel : (encodeRecords front ++ rest).length ≤ fuel) :
    ∃ left, rest.length ≤ left ∧ readRecords fuel ⟨path, offset, encodeRecords front ++ rest⟩ =
      readRecords left ⟨path, offset + (encodeRecords front).length, rest⟩ >>= fun records =>
        .ok (front ++ records) := by
  induction front generalizing offset fuel with
  | nil =>
    refine ⟨fuel, hfuel, ?_⟩
    change readRecords fuel ⟨path, offset, rest⟩ = readRecords fuel ⟨path, offset, rest⟩ >>= .ok
    cases readRecords fuel ⟨path, offset, rest⟩ <;> rfl
  | cons record front ih =>
    have hpos := List.length_pos_iff.mpr (encodeTermRecord_ne_nil record)
    rw [encodeRecords_cons, List.append_assoc, List.length_append] at hfuel
    obtain ⟨fuel, rfl⟩ : ∃ n, fuel = n + 1 := ⟨fuel - 1, by omega⟩
    have hless : (encodeRecords front ++ rest).length ≤ fuel := by omega
    obtain ⟨left, hleft, hrest⟩ := ih (fun other hother => hfits other (List.mem_cons_of_mem _ hother))
      (offset + (encodeTermRecord record).length) hless
    refine ⟨left, hleft, ?_⟩
    rw [encodeRecords_cons, List.append_assoc, readRecords_record (hfits record List.mem_cons_self), hrest,
      List.length_append, Nat.add_assoc]
    cases readRecords left ⟨path, _, rest⟩ <;> rfl

lemma readRecords_encodeRecords {records : List (Term × PostingList)}
    (hfits : ∀ record ∈ records, FitsRecord record) (path : String) (offset : Nat) {fuel : Nat}
    (hfuel : (encodeRecords records).length ≤ fuel) :
    readRecords fuel ⟨path, offset, encodeRecords records⟩ = .ok records := by
  have hwhole : (encodeRecords records ++ []).length ≤ fuel := by rwa [List.append_nil]
  obtain ⟨left, -, hread⟩ := readRecords_append hfits path offset [] hwhole
  have hend : ∀ offset, readRecords left ⟨path, offset, []⟩ = .ok [] := fun offset => by
    cases left <;> rfl
  rwa [List.append_nil, hend, ok_bind, List.append_nil] at hread

theorem decodeIndex_encodeRecords {index : PostingIndex} {records : List (Term × PostingList)}
    (horder : records.Perm index.entries) (hfits : ∀ record ∈ records, FitsRecord record)
    (path : String) : decodeIndex path (encodeRecords records) = .ok index := by
  unfold decodeIndex Reader.ofBytes
  rw [readRecords_encodeRecords hfits path 0 (Nat.le_refl _), ok_bind, foldl_addAll_entries horder]
  rfl

/-- The postings there can be: packed from field hits, or made of a payload that was checked. -/
inductive Made : Posting → Prop where
  | packed (ordinal : Ordinal) (hits : List FieldHit) : Made (Posting.pack ordinal hits)
  | checked {ordinal : Ordinal} {payload : List UInt8} {p : Posting}
      (h : Posting.ofPayload ordinal payload = .ok p) : Made p

lemma Made.payloadFault?_eq_none {p : Posting} (h : Made p) : payloadFault? p.payload = none := by
  cases h with
  | packed ordinal hits => exact payloadFault?_pack ordinal hits
  | checked h =>
    obtain ⟨hfault, rfl⟩ := ofPayload_eq_ok_iff.mp h
    exact hfault

/-- An index is read back from its file as it was, and from every other file with the same records in
another order. The fingerprints of its terms may be any numbers, and a term may be without postings. -/
theorem index_read_back_in_any_order {index : PostingIndex}
    (htexts : ∀ record ∈ index.entries, Utf8.size record.1.text < UInt32.size)
    (hcounts : ∀ record ∈ index.entries, record.2.length < UInt32.size)
    (hmade : ∀ record ∈ index.entries, ∀ p ∈ record.2, Made p) (path : String) :
    decodeIndex path (encodeIndex index) = .ok index ∧
      ∀ records, records.Perm index.entries → decodeIndex path (encodeRecords records) = .ok index := by
  have hfits : ∀ record ∈ index.entries, FitsRecord record := fun record hrecord =>
    ⟨htexts record hrecord, hcounts record hrecord, fun p hp =>
      (hmade record hrecord p hp).payloadFault?_eq_none⟩
  have horder : ∀ records, records.Perm index.entries →
      decodeIndex path (encodeRecords records) = .ok index := fun records hperm =>
    decodeIndex_encodeRecords hperm (fun record hrecord => hfits record (hperm.subset hrecord)) path
  exact ⟨horder index.entries (List.Perm.refl _), horder⟩

/-- Three terms with one fingerprint, the second of them without postings. -/
def collidingTerms : PostingIndex :=
  ((Multimap.empty.addAll ⟨7, "b"⟩ [Posting.pack 2 [⟨0, [1, 4]⟩], ⟨0, [3, 0]⟩]).addAll ⟨7, "a"⟩ []).addAll
    ⟨7, ""⟩ [⟨9, []⟩]

lemma entries_collidingTerms : collidingTerms.entries =
    [(⟨7, ""⟩, [⟨9, []⟩]), (⟨7, "a"⟩, []), (⟨7, "b"⟩, [⟨2, [0, 2, 1, 4]⟩, ⟨0, [3, 0]⟩])] := by
  decide +kernel

theorem index_read_back_colliding_terms :
    (∀ record ∈ collidingTerms.entries, Utf8.size record.1.text < UInt32.size) ∧
      (∀ record ∈ collidingTerms.entries, record.2.length < UInt32.size) ∧
      (∀ record ∈ collidingTerms.entries, ∀ p ∈ record.2, Made p) ∧
      decodeIndex "animals.lci" (encodeRecords collidingTerms.entries.reverse) = .ok collidingTerms := by
  have htexts : ∀ record ∈ collidingTerms.entries, Utf8.size record.1.text < UInt32.size := by
    rw [entries_collidingTerms]
    decide
  have hcounts : ∀ record ∈ collidingTerms.entries, record.2.length < UInt32.size := by
    rw [entries_collidingTerms]
    decide
  have hmade : ∀ record ∈ collidingTerms.entries, ∀ p ∈ record.2, Made p := by
    rw [entries_collidingTerms]
    have hempty : Made ⟨9, []⟩ :=
      .checked (ofPayload_eq_ok_iff.mpr ⟨by simp [payloadFault?, incompleteHit?], rfl⟩)
    have hnone : Made ⟨0, [3, 0]⟩ :=
      .checked (ofPayload_eq_ok_iff.mpr ⟨by simp [payloadFault?, incompleteHit?, maxPayload], rfl⟩)
    have hpacked : Made ⟨2, [0, 2, 1, 4]⟩ := .packed 2 [⟨0, [1, 4]⟩]
    simp [hempty, hnone, hpacked]
  exact ⟨htexts, hcounts, hmade,
    (index_read_back_in_any_order htexts hcounts hmade _).2 _ (List.reverse_perm _)⟩

end TextSearch.Proofs
