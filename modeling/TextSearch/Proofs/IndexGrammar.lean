import TextSearch.Proofs.IndexFiles
import TextSearch.Proofs.ReaderForms

/-!
# The grammar of index files

A file is an index if and only if it is cut into records, and it can be cut in one way only. The postings
of a term are those of all its records, in the order of the file.
-/

namespace TextSearch.Proofs
open Storage

/-- A field hit: `[field][n][n bytes]`. -/
def HitForm (bytes : List UInt8) (hit : FieldHit) : Prop :=
  ∃ count : UInt8, hit.positions.length = count.toNat ∧ bytes = hit.field :: count :: hit.positions

/-- A posting: `[ordinal:4][size:1][size bytes]`. The last bytes are field hits. -/
def PostingForm (bytes : List UInt8) (p : Posting) : Prop :=
  ∃ size : UInt8, p.payload.length = size.toNat ∧ (∃ hits, IsSplit HitForm p.payload hits) ∧
    bytes = LittleEndian.word32 p.ordinal ++ size :: p.payload

/-- A record of a term: `[fingerprint:8][length:4][length bytes][count:4]` and `count` postings. The
bytes in the middle are those of a text. -/
def RecordForm (bytes : List UInt8) (record : Term × PostingList) : Prop :=
  ∃ (length count : UInt32) (body : List UInt8) (postings : List (List UInt8 × Posting)),
    (Utf8.encode record.1.text).length = length.toNat ∧ record.2.length = count.toNat ∧
      IsSplit PostingForm body postings ∧ postings.map Prod.snd = record.2 ∧
      bytes = LittleEndian.word64 record.1.fingerprint ++ LittleEndian.word32 length ++
        Utf8.encode record.1.text ++ LittleEndian.word32 count ++ body

/-! ### Forms and what is written -/

lemma hitForm_iff {bytes : List UInt8} {hit : FieldHit} :
    HitForm bytes hit ↔ hit.positions.length ≤ maxPayload ∧ bytes = hit.encode := by
  constructor
  · rintro ⟨count, hcount, rfl⟩
    refine ⟨?_, by rw [FieldHit.encode, ofNat_eq_of_toNat_eq hcount]⟩
    rw [hcount]
    exact Nat.le_of_lt_succ count.toNat_lt
  · rintro ⟨hle, rfl⟩
    exact ⟨_, (UInt8.toNat_ofNat_of_lt' (Nat.lt_succ_of_le hle)).symm, rfl⟩

lemma incompleteHit?_flatMap_encode {hits : List FieldHit}
    (h : ∀ hit ∈ hits, hit.positions.length ≤ maxPayload) :
    incompleteHit? (hits.flatMap FieldHit.encode) = none := by
  induction hits with
  | nil => rw [List.flatMap_nil, incompleteHit?]
  | cons hit hits ih =>
    obtain ⟨hhit, hrest⟩ := List.forall_mem_cons.mp h
    rw [List.flatMap_cons, incompleteHit?_append _ (incompleteHit?_encode hhit)]
    exact ih hrest

/-- A payload is complete if and only if it consists of field hits. -/
lemma incompleteHit?_eq_none_iff {payload : List UInt8} :
    incompleteHit? payload = none ↔ ∃ hits, IsSplit HitForm payload hits := by
  constructor
  · intro h
    fun_induction incompleteHit? payload with
    | case1 => exact ⟨[], isSplit_nil⟩
    | case2 => exact absurd h (by simp)
    | case3 field count rest hle ih =>
      obtain ⟨hits, hsplit⟩ := ih h
      have hhit : HitForm (field :: count :: rest.take count.toNat) ⟨field, rest.take count.toNat⟩ :=
        ⟨count, List.length_take_of_le hle, rfl⟩
      have hall := hsplit.cons hhit
      rw [List.cons_append, List.cons_append, List.take_append_drop] at hall
      exact ⟨_, hall⟩
    | case4 => exact absurd h (by simp)
  · rintro ⟨hits, hsplit⟩
    rw [hsplit.eq_flatMap fun bytes hit hform => (hitForm_iff.mp hform).2]
    exact incompleteHit?_flatMap_encode (List.forall_mem_map.mpr fun piece hpiece =>
      (hitForm_iff.mp (hsplit.forms piece hpiece)).1)

lemma postingForm_iff {bytes : List UInt8} {p : Posting} :
    PostingForm bytes p ↔ payloadFault? p.payload = none ∧ bytes = encodePosting p := by
  rw [payloadFault?_eq_none_iff, incompleteHit?_eq_none_iff]
  constructor
  · rintro ⟨size, hsize, hhits, rfl⟩
    refine ⟨⟨?_, hhits⟩, by rw [encodePosting, Posting.size, ofNat_eq_of_toNat_eq hsize]⟩
    rw [hsize]
    exact Nat.le_of_lt_succ size.toNat_lt
  · rintro ⟨⟨hle, hhits⟩, rfl⟩
    exact ⟨_, (UInt8.toNat_ofNat_of_lt' (Nat.lt_succ_of_le hle)).symm, hhits, rfl⟩

lemma recordForm_iff {bytes : List UInt8} {record : Term × PostingList} :
    RecordForm bytes record ↔ FitsRecord record ∧ bytes = encodeTermRecord record := by
  constructor
  · rintro ⟨length, count, body, postings, hlength, hcount, hsplit, hpostings, rfl⟩
    rw [length_encode_text] at hlength
    refine ⟨⟨hlength ▸ length.toNat_lt, hcount ▸ count.toNat_lt, ?_⟩, ?_⟩
    · rw [← hpostings]
      exact List.forall_mem_map.mpr fun piece hpiece => (postingForm_iff.mp (hsplit.forms piece hpiece)).1
    · rw [hsplit.eq_flatMap fun bytes p hform => (postingForm_iff.mp hform).2, hpostings]
      unfold encodeTermRecord LittleEndian.word32
      rw [hlength, hcount]
  · rintro ⟨h, rfl⟩
    have hpostings : IsSplit PostingForm (record.2.flatMap encodePosting)
        (record.2.map fun p => (encodePosting p, p)) :=
      isSplit_written fun p hp => postingForm_iff.mpr ⟨h.payloads p hp, rfl⟩
    have hlength : (UInt32.ofNat (Utf8.size record.1.text)).toNat = Utf8.size record.1.text :=
      UInt32.toNat_ofNat_of_lt' h.text
    have hcount : (UInt32.ofNat record.2.length).toNat = record.2.length :=
      UInt32.toNat_ofNat_of_lt' h.postings
    refine ⟨UInt32.ofNat (Utf8.size record.1.text), _, _, _, ?_, hcount.symm, hpostings,
      map_snd_written _, ?_⟩
    · rw [length_encode_text, hlength]
    · unfold encodeTermRecord LittleEndian.word32
      rw [hlength, hcount]

/-- Bytes are cut into records in one way at most: they are what is written of the records. -/
lemma isSplit_records_iff {bytes : List UInt8} {split : List (List UInt8 × (Term × PostingList))} :
    IsSplit RecordForm bytes split ↔ ∃ records, (∀ record ∈ records, FitsRecord record) ∧
      bytes = encodeRecords records ∧ split = records.map fun record => (encodeTermRecord record, record) := by
  have hform : ∀ bytes record, RecordForm bytes record → bytes = encodeTermRecord record :=
    fun bytes record h => (recordForm_iff.mp h).2
  constructor
  · intro h
    refine ⟨split.map Prod.snd, List.forall_mem_map.mpr fun piece hpiece => ?_, h.eq_flatMap hform,
      h.eq_map hform⟩
    exact (recordForm_iff.mp (h.forms piece hpiece)).1
  · rintro ⟨records, hfits, rfl, rfl⟩
    exact isSplit_written fun record hrecord => recordForm_iff.mpr ⟨hfits record hrecord, rfl⟩

/-! ### Reading -/

lemma takes_posting (term : Term) : Takes (readPosting term) PostingForm := by
  intro r r' p h
  obtain ⟨⟨ordinal, r₁⟩, hordinal, h⟩ := bind_eq_ok_iff.mp h
  obtain ⟨⟨size, r₂⟩, hsize, h⟩ := bind_eq_ok_iff.mp h
  obtain ⟨⟨payload, r₃⟩, hpayload, h⟩ := bind_eq_ok_iff.mp h
  obtain ⟨_, rfl, hr⟩ := takes_word32 hordinal
  obtain ⟨_, rfl, hr₁⟩ := takes_byte hsize
  obtain ⟨_, ⟨rfl, hlength⟩, hr₂⟩ := takes_bytes _ hpayload
  dsimp only at h
  split at h
  · rename_i posting hposting
    obtain ⟨rfl, rfl⟩ := Prod.mk.inj (Except.ok.inj h)
    obtain ⟨hfault, rfl⟩ := ofPayload_eq_ok_iff.mp hposting
    have hhits := incompleteHit?_eq_none_iff.mp (payloadFault?_eq_none_iff.mp hfault).2
    refine ⟨_, ⟨size, hlength, hhits, rfl⟩, ?_⟩
    simp only [hr, hr₁, hr₂, List.append_assoc, List.cons_append, List.nil_append]
  · exact absurd h (by simp [throw, throwThe, MonadExceptOf.throw])

lemma takes_termRecord : Takes readTermRecord RecordForm := by
  intro r r' record h
  obtain ⟨⟨fingerprint, r₁⟩, hfingerprint, h⟩ := bind_eq_ok_iff.mp h
  obtain ⟨⟨length, r₂⟩, hlength, h⟩ := bind_eq_ok_iff.mp h
  obtain ⟨⟨bytes, r₃⟩, hbytes, h⟩ := bind_eq_ok_iff.mp h
  obtain ⟨text, htext, h⟩ := bind_eq_ok_iff.mp h
  obtain ⟨⟨count, r₄⟩, hcount, h⟩ := bind_eq_ok_iff.mp h
  obtain ⟨⟨postings, r₅⟩, hpostings, h⟩ := bind_eq_ok_iff.mp h
  obtain ⟨rfl, rfl⟩ := Prod.mk.inj (Except.ok.inj h)
  obtain ⟨_, rfl, hr⟩ := takes_word64 hfingerprint
  obtain ⟨_, rfl, hr₁⟩ := takes_word32 hlength
  obtain ⟨_, ⟨rfl, hlong⟩, hr₂⟩ := takes_bytes _ hbytes
  obtain rfl := text_eq_ok_iff.mp htext
  obtain ⟨_, rfl, hr₃⟩ := takes_word32 hcount
  obtain ⟨body, ⟨pieces, hsplit, hvalues, hmany⟩, hr₄⟩ := takes_many (takes_posting _) _ hpostings
  refine ⟨_, ⟨length, count, body, pieces, hlong, hmany, hsplit, hvalues, rfl⟩, ?_⟩
  simp only [hr, hr₁, hr₂, hr₃, hr₄, List.append_assoc]

lemma exists_split_of_readRecords {fuel : Nat} {r : Reader} {records : List (Term × PostingList)}
    (hfuel : r.rest.length ≤ fuel) (h : readRecords fuel r = .ok records) :
    ∃ split, IsSplit RecordForm r.rest split ∧ split.map Prod.snd = records := by
  induction fuel generalizing r records with
  | zero =>
    obtain rfl := Except.ok.inj h
    rw [List.eq_nil_of_length_eq_zero (Nat.le_zero.mp hfuel)]
    exact ⟨[], isSplit_nil, rfl⟩
  | succ fuel ih =>
    rw [readRecords] at h
    split at h
    · rename_i hempty
      obtain rfl := Except.ok.inj h
      rw [List.isEmpty_iff.mp hempty]
      exact ⟨[], isSplit_nil, rfl⟩
    · obtain ⟨⟨record, r₁⟩, hrecord, h⟩ := bind_eq_ok_iff.mp h
      obtain ⟨rest, hrest, h⟩ := bind_eq_ok_iff.mp h
      obtain rfl := Except.ok.inj h
      obtain ⟨bytes, hform, hr⟩ := takes_termRecord hrecord
      -- The record takes a byte at least, so the fuel covers the others.
      have hpos : 0 < bytes.length := by
        rw [(recordForm_iff.mp hform).2]
        exact List.length_pos_iff.mpr (encodeTermRecord_ne_nil record)
      rw [hr, List.length_append] at hfuel
      obtain ⟨split, hsplit, hvalues⟩ := ih (by omega) hrest
      rw [hr]
      exact ⟨_, hsplit.cons hform, by rw [List.map_cons, hvalues]⟩

/-- The index that records make. -/
def gathered (records : List (Term × PostingList)) : PostingIndex :=
  records.foldl (fun index record => index.addAll record.1 record.2) Multimap.empty

theorem decodeIndex_eq_ok_iff {path : String} {bytes : List UInt8} {index : PostingIndex} :
    decodeIndex path bytes = .ok index ↔
      ∃ split, IsSplit RecordForm bytes split ∧ index = gathered (split.map Prod.snd) := by
  constructor
  · intro h
    obtain ⟨records, hrecords, h⟩ := bind_eq_ok_iff.mp h
    obtain rfl := Except.ok.inj h
    obtain ⟨split, hsplit, rfl⟩ := exists_split_of_readRecords (Nat.le_refl bytes.length) hrecords
    exact ⟨split, hsplit, rfl⟩
  · rintro ⟨split, hsplit, rfl⟩
    obtain ⟨records, hfits, rfl, rfl⟩ := isSplit_records_iff.mp hsplit
    unfold decodeIndex Reader.ofBytes
    rw [readRecords_encodeRecords hfits path 0 (Nat.le_refl _), ok_bind, map_snd_written]
    rfl

/-! ### What the records make -/

lemma items?_gathered (records : List (Term × PostingList)) (term : Term) :
    (gathered records).items? term =
      if itemsFor term records = [] then none else some (itemsFor term records).flatten := by
  rw [gathered, items?_foldl_addAll, Multimap.items?_empty, items_empty, List.nil_append]

lemma items_gathered (records : List (Term × PostingList)) (term : Term) :
    (gathered records).items term = (itemsFor term records).flatten := by
  rw [Multimap.items, items?_gathered]
  by_cases h : itemsFor term records = [] <;> simp [h]

lemma contains_gathered (records : List (Term × PostingList)) (term : Term) :
    (gathered records).contains term = true ↔ term ∈ records.map Prod.fst := by
  rw [Multimap.contains, items?_gathered, ← itemsFor_ne_nil_iff]
  by_cases h : itemsFor term records = [] <;> simp [h]

lemma encodeRecords_injective {records others : List (Term × PostingList)}
    (hfits : ∀ record ∈ records, FitsRecord record) (hfits' : ∀ record ∈ others, FitsRecord record)
    (h : encodeRecords records = encodeRecords others) : records = others := by
  -- Reading is a function, and it gives back both.
  have hread := readRecords_encodeRecords hfits "" 0 (Nat.le_refl _)
  rw [h, readRecords_encodeRecords hfits' "" 0 (Nat.le_refl _)] at hread
  exact (Except.ok.inj hread).symm

lemma isSplit_records_unique {bytes : List UInt8} {split other : List (List UInt8 × (Term × PostingList))}
    (h : IsSplit RecordForm bytes split) (h' : IsSplit RecordForm bytes other) : split = other := by
  obtain ⟨records, hfits, hbytes, rfl⟩ := isSplit_records_iff.mp h
  obtain ⟨others, hfits', hbytes', rfl⟩ := isSplit_records_iff.mp h'
  rw [encodeRecords_injective hfits hfits' (hbytes.symm.trans hbytes')]

/-- Bytes are an index if and only if they can be cut into records, and they cannot be cut in two ways.
The terms of the index are those of the records, and the postings of a term are those of all its records,
joined in the order of the file. So the bytes of two indexes, one behind the other, are the index whose
lists are the lists of the first one, each with that of the second one behind it. -/
theorem decodeIndex_accepts_records (path : String) (bytes : List UInt8) :
    ((∃ index, decodeIndex path bytes = .ok index) ↔ ∃ split, IsSplit RecordForm bytes split) ∧
    (∀ split other, IsSplit RecordForm bytes split → IsSplit RecordForm bytes other → split = other) ∧
    (∀ split index, IsSplit RecordForm bytes split → decodeIndex path bytes = .ok index →
      ∀ term, (index.contains term = true ↔ term ∈ (split.map Prod.snd).map Prod.fst) ∧
        index.items term = (itemsFor term (split.map Prod.snd)).flatten) ∧
    ∀ (otherPath wholePath : String) (more : List UInt8) (first second : PostingIndex),
      decodeIndex path bytes = .ok first → decodeIndex otherPath more = .ok second →
        ∃ whole, decodeIndex wholePath (bytes ++ more) = .ok whole ∧
          ∀ term, whole.contains term = (first.contains term || second.contains term) ∧
            whole.items term = first.items term ++ second.items term := by
  refine ⟨⟨?_, ?_⟩, fun split other => isSplit_records_unique, ?_, ?_⟩
  · rintro ⟨index, hindex⟩
    obtain ⟨split, hsplit, -⟩ := decodeIndex_eq_ok_iff.mp hindex
    exact ⟨split, hsplit⟩
  · rintro ⟨split, hsplit⟩
    exact ⟨_, decodeIndex_eq_ok_iff.mpr ⟨split, hsplit, rfl⟩⟩
  · intro split index hsplit hindex term
    obtain ⟨other, hother, rfl⟩ := decodeIndex_eq_ok_iff.mp hindex
    obtain rfl := isSplit_records_unique hsplit hother
    exact ⟨contains_gathered _ term, items_gathered _ term⟩
  · intro otherPath wholePath more first second hfirst hsecond
    obtain ⟨split, hsplit, rfl⟩ := decodeIndex_eq_ok_iff.mp hfirst
    obtain ⟨other, hother, rfl⟩ := decodeIndex_eq_ok_iff.mp hsecond
    refine ⟨_, decodeIndex_eq_ok_iff.mpr ⟨_, hsplit.append hother, rfl⟩, fun term => ⟨?_, ?_⟩⟩
    · rw [List.map_append, Bool.eq_iff_iff, Bool.or_eq_true]
      simp only [contains_gathered, List.map_append, List.mem_append]
    · rw [List.map_append, items_gathered, items_gathered, items_gathered, itemsFor_append,
        List.flatten_append]

/-- Two records of one term with a text of two bytes, and one of a term without text and postings. -/
theorem decodeIndex_accepts_repeated_term :
    let bytes : List UInt8 :=
      [7, 0, 0, 0, 0, 0, 0, 0, 2, 0, 0, 0, 0xC3, 0xA9, 1, 0, 0, 0, 5, 0, 0, 0, 3, 0, 1, 9,
        7, 0, 0, 0, 0, 0, 0, 0, 0, 0, 0, 0, 0, 0, 0, 0,
        7, 0, 0, 0, 0, 0, 0, 0, 2, 0, 0, 0, 0xC3, 0xA9, 1, 0, 0, 0, 2, 0, 0, 0, 0]
    ∃ index, decodeIndex "animals.lci" bytes = .ok index ∧
      index.items ⟨7, "é"⟩ = [⟨5, [0, 1, 9]⟩, ⟨2, []⟩] ∧ index.contains ⟨7, ""⟩ = true := by
  intro bytes
  let records : List (Term × PostingList) :=
    [(⟨7, "é"⟩, [⟨5, [0, 1, 9]⟩]), (⟨7, ""⟩, []), (⟨7, "é"⟩, [⟨2, []⟩])]
  have htexts : ∀ record ∈ records, Utf8.size record.1.text < UInt32.size := by decide
  have hcounts : ∀ record ∈ records, record.2.length < UInt32.size := by decide
  have hpayloads : ∀ record ∈ records, ∀ p ∈ record.2, payloadFault? p.payload = none := by
    simp [records, payloadFault?, incompleteHit?, maxPayload]
  have hfits : ∀ record ∈ records, FitsRecord record := fun record hrecord =>
    ⟨htexts record hrecord, hcounts record hrecord, hpayloads record hrecord⟩
  have hbytes : bytes = encodeRecords records := by decide
  have hsplit := isSplit_records_iff.mpr ⟨records, hfits, hbytes, rfl⟩
  obtain ⟨haccepts, -, hmakes, -⟩ := decodeIndex_accepts_records "animals.lci" bytes
  obtain ⟨index, hindex⟩ := haccepts.mpr ⟨_, hsplit⟩
  have hterms := hmakes _ index hsplit hindex
  exact ⟨index, hindex, (hterms ⟨7, "é"⟩).2.trans (by decide), (hterms ⟨7, ""⟩).1.mpr (by decide)⟩

end TextSearch.Proofs
