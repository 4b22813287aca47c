import Mathlib.Algebra.Order.BigOperators.Group.List
import Mathlib.Algebra.Order.Group.Nat
import TextSearch.Proofs.IndexGrammar
import TextSearch.Proofs.KeptHits

/-!
# Records of a payload

The check of a payload and the list of its field hits go by the same records. What is listed of a payload
are the records before the first one that overruns it, and there is none if and only if the check finds
the payload complete.
-/

namespace TextSearch.Proofs

/-- Bytes that begin as a field hit and end within it. -/
inductive Overruns : List UInt8 → Prop where
  | header (field : UInt8) : Overruns [field]
  | positions (field : UInt8) {count : UInt8} {rest : List UInt8} (h : rest.length < count.toNat) :
      Overruns (field :: count :: rest)

/-- The complete records in front of a payload, and what comes behind them. -/
structure CompleteFront (payload : List UInt8) (records : List (List UInt8 × FieldHit))
    (rest : List UInt8) : Prop where
  forms : ∀ record ∈ records, HitForm record.1 record.2
  whole : (records.map Prod.fst).flatten ++ rest = payload
  ends : rest = [] ∨ Overruns rest

section Fronts

variable {payload rest bytes : List UInt8} {records : List (List UInt8 × FieldHit)} {hit : FieldHit}

lemma completeFront_rest (h : rest = [] ∨ Overruns rest) : CompleteFront rest [] rest :=
  ⟨by simp, rfl, h⟩

lemma CompleteFront.cons (hhit : HitForm bytes hit) (h : CompleteFront payload records rest) :
    CompleteFront (bytes ++ payload) ((bytes, hit) :: records) rest where
  forms := List.forall_mem_cons.mpr ⟨hhit, h.forms⟩
  whole := by rw [List.map_cons, List.flatten_cons, List.append_assoc, h.whole]
  ends := h.ends

/-- Every payload has complete records in front. -/
lemma exists_completeFront (payload : List UInt8) :
    ∃ records rest, CompleteFront payload records rest := by
  fun_induction incompleteHit? payload with
  | case1 => exact ⟨[], [], completeFront_rest (.inl rfl)⟩
  | case2 field => exact ⟨[], [field], completeFront_rest (.inr (.header field))⟩
  | case3 field count rest hle ih =>
    obtain ⟨records, tail, h⟩ := ih
    have hhit : HitForm (field :: count :: rest.take count.toNat) ⟨field, rest.take count.toNat⟩ :=
      ⟨count, List.length_take_of_le hle, rfl⟩
    have hall := h.cons hhit
    rw [List.cons_append, List.cons_append, List.take_append_drop] at hall
    exact ⟨_, tail, hall⟩
  | case4 field count rest hlt =>
    exact ⟨[], _, completeFront_rest (.inr (.positions field (Nat.lt_of_not_le hlt)))⟩

lemma decodeAll_of_overruns (h : Overruns rest) : FieldHit.decodeAll rest = [] := by
  cases h with
  | header field => simp [FieldHit.decodeAll]
  | positions field h => rw [FieldHit.decodeAll, if_neg (Nat.not_le.mpr h)]

lemma incompleteHit?_of_overruns (h : Overruns rest) : incompleteHit? rest ≠ none := by
  cases h with
  | header field => simp [incompleteHit?]
  | positions field h => simp [incompleteHit?, Nat.not_le.mpr h]

/-- The records that are listed, taken from the front one by one. -/
lemma CompleteFront.decodeAll_eq (h : CompleteFront payload records rest) :
    FieldHit.decodeAll payload = records.map Prod.snd := by
  obtain ⟨hforms, rfl, hends⟩ := h
  induction records with
  | nil =>
    rcases hends with rfl | hover
    · simp [FieldHit.decodeAll]
    · exact decodeAll_of_overruns hover
  | cons record records ih =>
    obtain ⟨hrecord, hrecords⟩ := List.forall_mem_cons.mp hforms
    obtain ⟨hle, hbytes⟩ := hitForm_iff.mp hrecord
    rw [List.map_cons, List.flatten_cons, List.append_assoc, hbytes, decodeAll_encode_append hle,
      ih hrecords, List.map_cons]

lemma CompleteFront.rest_eq_nil_iff (h : CompleteFront payload records rest) :
    rest = [] ↔ ∃ split, IsSplit HitForm payload split := by
  have hfront : incompleteHit? (records.map Prod.fst).flatten = none :=
    incompleteHit?_eq_none_iff.mpr ⟨records, h.forms, rfl⟩
  rw [← incompleteHit?_eq_none_iff, ← h.whole, incompleteHit?_append _ hfront]
  constructor
  · rintro rfl
    rw [incompleteHit?]
  · intro hcomplete
    exact h.ends.resolve_right fun hover => incompleteHit?_of_overruns hover hcomplete

end Fronts

/-! ### Packing once more -/

/-- Hits that have room are packed one behind the other. -/
lemma payload_pack_of_fits (ordinal : Ordinal) {hits : List FieldHit}
    (h : packedSize (withPositions hits) ≤ maxPayload) :
    (Posting.pack ordinal hits).payload = (withPositions hits).flatMap FieldHit.encode := by
  obtain ⟨kept, cut, left, hpacks⟩ := packs_foldl hits
  obtain rfl := hpacks.left_eq_nil h
  have hcut : cut = [] := by
    cases hpacks.cutOf
    rfl
  rw [hpacks.withPositions_eq, List.append_nil, Posting.pack, hpacks.payload_eq, hcut, List.append_nil]

lemma packedSize_withPositions_le (hits : List FieldHit) : packedSize (withPositions hits) ≤ packedSize hits :=
  (List.filter_sublist.map _).sum_le_sum fun _ _ => Nat.zero_le _

lemma flatMap_positions_withPositions (hits : List FieldHit) :
    (withPositions hits).flatMap FieldHit.positions = hits.flatMap FieldHit.positions := by
  induction hits with
  | nil => rfl
  | cons hit hits ih =>
    unfold withPositions at ih ⊢
    cases hempty : hit.positions.isEmpty
    · simp [hempty, ih]
    · simp [List.isEmpty_iff.mp hempty, ih]

/-- The records of hits with positions. -/
lemma flatten_withPositions {payload : List UInt8} {records : List (List UInt8 × FieldHit)}
    (h : IsSplit HitForm payload records) :
    ((records.filter fun record => !record.2.positions.isEmpty).map Prod.fst).flatten =
      (withPositions (records.map Prod.snd)).flatMap FieldHit.encode := by
  have hkept : IsSplit HitForm
      ((records.filter fun record => !record.2.positions.isEmpty).map Prod.fst).flatten
      (records.filter fun record => !record.2.positions.isEmpty) :=
    ⟨fun record hrecord => h.forms record (List.mem_of_mem_filter hrecord), rfl⟩
  rw [hkept.eq_flatMap fun bytes hit hform => (hitForm_iff.mp hform).2, withPositions, List.filter_map]
  rfl

/-- A payload passes its check if and only if it has no more than 255 bytes and consists of records. Its
hits are these records, and packed again they give the payload without the records that have no positions.
Of any other bytes the hits are the complete records in front: those before the end, or before a record
that overruns the payload. -/
theorem payload_hits_are_its_records (ordinal : Ordinal) (payload : List UInt8) :
    ((∃ p, Posting.ofPayload ordinal payload = .ok p) ↔
      payload.length ≤ 255 ∧ ∃ records, IsSplit HitForm payload records) ∧
    (∀ p, Posting.ofPayload ordinal payload = .ok p →
      p = ⟨ordinal, payload⟩ ∧ p.hits.flatMap FieldHit.encode = payload ∧
      (Posting.pack ordinal p.hits).occurrences = p.occurrences ∧
      ∀ records, IsSplit HitForm payload records →
        p.hits = records.map Prod.snd ∧
        (Posting.pack ordinal p.hits).payload =
          ((records.filter fun record => !record.2.positions.isEmpty).map Prod.fst).flatten) ∧
    (∃ records rest, CompleteFront payload records rest) ∧
    ∀ records rest, CompleteFront payload records rest →
      Posting.hits ⟨ordinal, payload⟩ = records.map Prod.snd ∧
      (rest = [] ↔ ∃ split, IsSplit HitForm payload split) := by
  have hlisted : ∀ records, IsSplit HitForm payload records →
      FieldHit.decodeAll payload = records.map Prod.snd := fun records hsplit =>
    CompleteFront.decodeAll_eq ⟨hsplit.forms, by rw [List.append_nil, hsplit.whole], .inl rfl⟩
  refine ⟨?_, ?_, exists_completeFront payload, fun records rest h => ⟨h.decodeAll_eq, h.rest_eq_nil_iff⟩⟩
  · rw [← incompleteHit?_eq_none_iff, ← maxPayload, ← payloadFault?_eq_none_iff]
    simp only [ofPayload_eq_ok_iff, exists_and_left, exists_eq, and_true]
  · intro p hp
    obtain ⟨hfault, rfl⟩ := ofPayload_eq_ok_iff.mp hp
    obtain ⟨hle, hcomplete⟩ := payloadFault?_eq_none_iff.mp hfault
    obtain ⟨split, hsplit⟩ := incompleteHit?_eq_none_iff.mp hcomplete
    have hencode : (FieldHit.decodeAll payload).flatMap FieldHit.encode = payload := by
      rw [hlisted split hsplit]
      exact (hsplit.eq_flatMap fun bytes hit hform => (hitForm_iff.mp hform).2).symm
    have hroom : packedSize (withPositions (FieldHit.decodeAll payload)) ≤ maxPayload := by
      refine (packedSize_withPositions_le _).trans ?_
      rwa [← length_flatMap_encode, hencode]
    have hpacked := payload_pack_of_fits ordinal hroom
    refine ⟨rfl, hencode, ?_, fun records hrecords => ⟨hlisted records hrecords, ?_⟩⟩
    · rw [Posting.occurrences, Posting.hits, Posting.hits, hpacked, decodeAll_flatMap_encode hroom,
        flatMap_positions_withPositions]
      rfl
    · rw [flatten_withPositions hrecords, ← hlisted records hrecords]
      exact hpacked

/-- A payload with a record without positions, and one whose second record overruns it. -/
theorem payload_hits_are_its_records_two_payloads :
    let p : Posting := ⟨3, [1, 1, 8, 2, 0]⟩
    let torn : Posting := ⟨3, [0, 1, 5, 1, 9, 1]⟩
    Posting.ofPayload 3 [1, 1, 8, 2, 0] = .ok p ∧
      IsSplit HitForm [1, 1, 8, 2, 0] [([1, 1, 8], ⟨1, [8]⟩), ([2, 0], ⟨2, []⟩)] ∧
      p.hits = [⟨1, [8]⟩, ⟨2, []⟩] ∧ (Posting.pack 3 p.hits).payload = [1, 1, 8] ∧
      CompleteFront [0, 1, 5, 1, 9, 1] [([0, 1, 5], ⟨0, [5]⟩)] [1, 9, 1] ∧ torn.hits = [⟨0, [5]⟩] ∧
      ¬∃ q, Posting.ofPayload 3 torn.payload = .ok q := by
  intro p torn
  have hsome : HitForm [1, 1, 8] ⟨1, [8]⟩ := ⟨1, rfl, rfl⟩
  have hnone : HitForm [2, 0] ⟨2, []⟩ := ⟨0, rfl, rfl⟩
  have hfirst : HitForm [0, 1, 5] ⟨0, [5]⟩ := ⟨1, rfl, rfl⟩
  have hsplit : IsSplit HitForm p.payload [([1, 1, 8], ⟨1, [8]⟩), ([2, 0], ⟨2, []⟩)] :=
    (isSplit_nil.cons hnone).cons hsome
  have hfront : CompleteFront torn.payload [([0, 1, 5], ⟨0, [5]⟩)] [1, 9, 1] :=
    (completeFront_rest (.inr (.positions 1 (by decide)))).cons hfirst
  obtain ⟨haccepts, hpasses, -⟩ := payload_hits_are_its_records 3 p.payload
  obtain ⟨q, hq⟩ := haccepts.mpr ⟨by decide, _, hsplit⟩
  obtain ⟨rfl, -, -, hrecords⟩ := hpasses q hq
  obtain ⟨hhits, hpacked⟩ := hrecords _ hsplit
  obtain ⟨htorn, -, -, hlists⟩ := payload_hits_are_its_records 3 torn.payload
  obtain ⟨hlisted, hwhole⟩ := hlists _ _ hfront
  refine ⟨hq, hsplit, hhits, hpacked, hfront, hlisted, fun h => ?_⟩
  exact absurd (hwhole.mpr (htorn.mp h).2) (by simp)

end TextSearch.Proofs
