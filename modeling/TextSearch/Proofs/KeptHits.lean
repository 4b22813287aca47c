import Mathlib.Algebra.Ring.Nat
import Mathlib.Data.List.Induction
import Mathlib.Tactic.ByContra
import Mathlib.Tactic.Lemma
import TextSearch.Proofs.PackedPayloads

/-!
# What packing keeps

Field hits are packed whole while there is room. The first one that does not fit is cut so that the payload
is full, and what comes behind it is left out.
-/

namespace TextSearch.Proofs

/-- The bytes that field hits take. -/
def packedSize (hits : List FieldHit) : Nat := (hits.map fun hit => 2 + hit.positions.length).sum

lemma length_flatMap_encode (hits : List FieldHit) :
    (hits.flatMap FieldHit.encode).length = packedSize hits := by
  have hencode : ∀ hit : FieldHit, hit.encode.length = 2 + hit.positions.length := by
    intro hit
    rw [FieldHit.encode, List.length_cons, List.length_cons]
    omega
  rw [List.length_flatMap, packedSize]
  simp only [hencode]

lemma decodeAll_encode_append {hit : FieldHit} (h : hit.positions.length ≤ maxPayload)
    (more : List UInt8) : FieldHit.decodeAll (hit.encode ++ more) = hit :: FieldHit.decodeAll more := by
  have hcount : (UInt8.ofNat hit.positions.length).toNat = hit.positions.length :=
    UInt8.toNat_ofNat_of_lt' (Nat.lt_succ_of_le h)
  have hle : hit.positions.length ≤ (hit.positions ++ more).length := by
    rw [List.length_append]
    omega
  rw [FieldHit.encode, List.cons_append, List.cons_append, FieldHit.decodeAll, hcount, if_pos hle,
    List.take_left, List.drop_left]

lemma decodeAll_flatMap_encode {hits : List FieldHit} (h : packedSize hits ≤ maxPayload) :
    FieldHit.decodeAll (hits.flatMap FieldHit.encode) = hits := by
  induction hits with
  | nil => simp [FieldHit.decodeAll]
  | cons hit hits ih =>
    have hsize : packedSize (hit :: hits) = 2 + hit.positions.length + packedSize hits := by
      simp [packedSize]
    rw [List.flatMap_cons, decodeAll_encode_append (by omega), ih (by omega)]

/-- What is kept in part of some field hits: nothing, or the first of them with some of its positions, but
not with all. -/
inductive CutOf : List FieldHit → List FieldHit → Prop where
  | nothing (left : List FieldHit) : CutOf left []
  | first {field : UInt8} {positions : List UInt8} {n : Nat} (left : List FieldHit) (hpos : 0 < n)
      (hlt : n < positions.length) :
      CutOf (⟨field, positions⟩ :: left) [⟨field, positions.take n⟩]

lemma CutOf.concat {left cut : List FieldHit} (h : CutOf left cut) (hit : FieldHit) :
    CutOf (left ++ [hit]) cut := by
  cases h with
  | nothing => exact .nothing _
  | first left hpos hlt => exact .first _ hpos hlt

/-- The field hits that have positions. -/
def withPositions (hits : List FieldHit) : List FieldHit := hits.filter fun hit => !hit.positions.isEmpty

/-- A payload that holds the hits `kept`, and then `cut`, which is a part of the hits `left`. -/
structure Packs (hits : List FieldHit) (payload : List UInt8) (kept cut left : List FieldHit) : Prop where
  payload_eq : payload = (kept ++ cut).flatMap FieldHit.encode
  withPositions_eq : withPositions hits = kept ++ left
  cutOf : CutOf left cut
  fits : payload.length ≤ maxPayload
  full : cut ≠ [] → payload.length = maxPayload
  crowded : cut.length < left.length → maxPayload < payload.length + 3

lemma packs_nil : Packs [] [] [] [] [] where
  payload_eq := rfl
  withPositions_eq := rfl
  cutOf := .nothing []
  fits := Nat.zero_le _
  full h := absurd rfl h
  crowded h := absurd h (Nat.lt_irrefl 0)

section Steps

variable {hits kept cut left : List FieldHit} {payload : List UInt8} {hit : FieldHit}

lemma withPositions_concat (hits : List FieldHit) (hit : FieldHit) :
    withPositions (hits ++ [hit]) = withPositions hits ++ if hit.positions.isEmpty then [] else [hit] := by
  unfold withPositions
  rw [List.filter_append]
  cases h : hit.positions.isEmpty <;> simp [h]

lemma Packs.skip (h : Packs hits payload kept cut left) (hempty : hit.positions.isEmpty) :
    Packs (hits ++ [hit]) payload kept cut left where
  payload_eq := h.payload_eq
  withPositions_eq := by rw [withPositions_concat, if_pos hempty, List.append_nil, h.withPositions_eq]
  cutOf := h.cutOf
  fits := h.fits
  full := h.full
  crowded := h.crowded

lemma Packs.drop (h : Packs hits payload kept cut left) (hsome : ¬hit.positions.isEmpty)
    (hroom : maxPayload - payload.length ≤ 2) : Packs (hits ++ [hit]) payload kept cut (left ++ [hit]) where
  payload_eq := h.payload_eq
  withPositions_eq := by rw [withPositions_concat, if_neg hsome, h.withPositions_eq, List.append_assoc]
  cutOf := h.cutOf.concat hit
  fits := h.fits
  full := h.full
  crowded _ := by
    have hfits := h.fits
    omega

/-- As long as there is room, all hits were kept whole. -/
lemma Packs.whole (h : Packs hits payload kept cut left) (hroom : 2 < maxPayload - payload.length) :
    cut = [] ∧ left = [] := by
  have hcut : cut = [] := by
    by_contra hne
    have hfull := h.full hne
    omega
  refine ⟨hcut, ?_⟩
  by_contra hne
  have hpos : cut.length < left.length := by
    rw [hcut]
    exact List.length_pos_iff.mpr hne
  have hcrowded := h.crowded hpos
  omega

lemma Packs.keep (h : Packs hits payload kept [] []) (hsome : ¬hit.positions.isEmpty)
    (hroom : payload.length + (2 + hit.positions.length) ≤ maxPayload) :
    Packs (hits ++ [hit]) (payload ++ hit.encode) (kept ++ [hit]) [] [] where
  payload_eq := by
    rw [h.payload_eq, List.append_nil, List.append_nil, List.flatMap_append, List.flatMap_singleton]
  withPositions_eq := by
    rw [withPositions_concat, if_neg hsome, h.withPositions_eq, List.append_nil, List.append_nil]
  cutOf := .nothing []
  fits := by
    rw [List.length_append, FieldHit.encode, List.length_cons, List.length_cons]
    omega
  full h := absurd rfl h
  crowded h := absurd h (Nat.lt_irrefl 0)

lemma Packs.cutOff (h : Packs hits payload kept [] []) (hsome : ¬hit.positions.isEmpty) {n : Nat}
    (hpos : 0 < n) (hlt : n < hit.positions.length) (hroom : payload.length + (2 + n) = maxPayload) :
    Packs (hits ++ [hit]) (payload ++ FieldHit.encode ⟨hit.field, hit.positions.take n⟩) kept
      [⟨hit.field, hit.positions.take n⟩] [hit] := by
  have hlength : (payload ++ FieldHit.encode ⟨hit.field, hit.positions.take n⟩).length = maxPayload := by
    rw [List.length_append, FieldHit.encode, List.length_cons, List.length_cons,
      List.length_take_of_le (Nat.le_of_lt hlt)]
    omega
  exact {
    payload_eq := by
      rw [h.payload_eq, List.append_nil, List.flatMap_append, List.flatMap_singleton]
    withPositions_eq := by rw [withPositions_concat, if_neg hsome, h.withPositions_eq, List.append_nil]
    cutOf := .first [] hpos hlt
    fits := Nat.le_of_eq hlength
    full := fun _ => hlength
    crowded := fun h => absurd h (Nat.lt_irrefl 1) }

lemma packs_packHit (h : Packs hits payload kept cut left) (hit : FieldHit) :
    ∃ kept cut left, Packs (hits ++ [hit]) (Posting.packHit payload hit) kept cut left := by
  unfold Posting.packHit Posting.fitted
  dsimp only
  by_cases hempty : hit.positions.isEmpty
  · rw [hempty, Bool.or_true, if_pos rfl]
    exact ⟨_, _, _, h.skip hempty⟩
  · by_cases hroom : maxPayload - payload.length ≤ 2
    · rw [decide_eq_true hroom, Bool.true_or, if_pos rfl]
      exact ⟨_, _, _, h.drop hempty hroom⟩
    · have hgoes : ¬(decide (maxPayload - payload.length ≤ 2) || hit.positions.isEmpty) = true := by
        simp [hroom, hempty]
      obtain ⟨rfl, rfl⟩ := h.whole (by omega)
      rw [if_neg hgoes]
      by_cases hfits : hit.positions.length ≤ maxPayload - payload.length - 2
      · rw [List.take_of_length_le hfits]
        exact ⟨_, _, _, h.keep hempty (by omega)⟩
      · exact ⟨_, _, _, h.cutOff hempty (by omega) (by omega) (by omega)⟩

end Steps

lemma packs_foldl (hits : List FieldHit) : ∃ kept cut left,
    Packs hits (hits.foldl Posting.packHit []) kept cut left := by
  -- from the back, as the hit that is packed last is the last of the list
  induction hits using List.reverseRecOn with
  | nil => exact ⟨_, _, _, packs_nil⟩
  | append_singleton hits hit ih =>
    obtain ⟨kept, cut, left, h⟩ := ih
    rw [List.foldl_append]
    exact packs_packHit h hit

lemma packedSize_append (hits others : List FieldHit) :
    packedSize (hits ++ others) = packedSize hits + packedSize others := by
  rw [packedSize, List.map_append, List.sum_append]
  rfl

/-- Hits that have room are kept whole. -/
lemma Packs.left_eq_nil {hits kept cut left : List FieldHit} {payload : List UInt8}
    (h : Packs hits payload kept cut left) (hsize : packedSize (withPositions hits) ≤ maxPayload) :
    left = [] := by
  have hlength : payload.length = packedSize kept + packedSize cut := by
    rw [h.payload_eq, length_flatMap_encode, packedSize_append]
  rw [h.withPositions_eq, packedSize_append] at hsize
  cases h.cutOf with
  | first rest hpos hlt =>
    -- The payload is full and still lacks positions of a hit, so the hits take more than there is.
    have hfull := h.full (List.cons_ne_nil _ _)
    simp only [packedSize, List.map_cons, List.map_nil, List.sum_cons, List.sum_nil, List.length_take]
      at hsize hlength
    omega
  | nothing =>
    -- A hit that is left out takes three bytes at least, and there are fewer.
    by_contra hne
    have hcrowded := h.crowded (List.length_pos_iff.mpr hne)
    obtain ⟨hit, rest, rfl⟩ := List.exists_cons_of_ne_nil hne
    have hmem : hit ∈ withPositions hits := by
      rw [h.withPositions_eq]
      exact List.mem_append_right _ List.mem_cons_self
    have hpositions : hit.positions ≠ [] := by
      simpa [withPositions] using (List.mem_filter.mp hmem).2
    have hpos := List.length_pos_iff.mpr hpositions
    simp only [packedSize, List.map_cons, List.map_nil, List.sum_cons, List.sum_nil] at hsize hlength
    omega

/-- A payload holds the field hits that have positions, up to the first one for which there is no room; that
one is cut to what is left, if this is more than its header. Nothing is lost of hits that fit together. -/
theorem packing_keeps_front (ordinal : Ordinal) (hits : List FieldHit) :
    let posting := Posting.pack ordinal hits
    posting.payload.length ≤ 255 ∧ posting.size.toNat = posting.payload.length ∧
      (∃ kept cut left, withPositions hits = kept ++ left ∧ posting.hits = kept ++ cut ∧ CutOf left cut ∧
        (cut ≠ [] → posting.payload.length = 255) ∧
        (cut.length < left.length → 255 - posting.payload.length < 3)) ∧
      (packedSize (withPositions hits) ≤ 255 → posting.hits = withPositions hits) ∧
      posting.occurrences = (posting.hits.map fun hit => hit.positions.length).sum ∧
      Posting.ofPayload ordinal posting.payload = .ok posting := by
  intro posting
  obtain ⟨kept, cut, left, h⟩ := packs_foldl hits
  have hfault : payloadFault? posting.payload = none := payloadFault?_pack ordinal hits
  have hhits : posting.hits = kept ++ cut := by
    have hfits : packedSize (kept ++ cut) ≤ maxPayload := by
      rw [← length_flatMap_encode, ← h.payload_eq]
      exact h.fits
    have hdecode := decodeAll_flatMap_encode hfits
    rwa [← h.payload_eq] at hdecode
  have hcrowded : cut.length < left.length → 255 - posting.payload.length < 3 := by
    intro hlt
    have hlast := h.crowded hlt
    change 255 < posting.payload.length + 3 at hlast
    omega
  have hwhole : packedSize (withPositions hits) ≤ 255 → posting.hits = withPositions hits := by
    intro hle
    obtain rfl := h.left_eq_nil hle
    have hcut : cut = [] := by
      cases h.cutOf
      rfl
    rw [hhits, h.withPositions_eq, hcut]
  refine ⟨h.fits, toNat_size hfault, ⟨kept, cut, left, h.withPositions_eq, hhits, h.cutOf, h.full, hcrowded⟩, hwhole,
    ?_, ?_⟩
  · rw [Posting.occurrences, List.length_flatMap]
  · exact ofPayload_eq_ok_iff.mpr ⟨hfault, rfl⟩

/-- A hit without positions leaves the others as they are. -/
theorem packing_keeps_front_three_fields :
    packedSize (withPositions [⟨0, [1, 4]⟩, ⟨1, []⟩, ⟨2, [9]⟩]) ≤ 255 ∧
      (Posting.pack 5 [⟨0, [1, 4]⟩, ⟨1, []⟩, ⟨2, [9]⟩]).hits = [⟨0, [1, 4]⟩, ⟨2, [9]⟩] := by
  have hroom : packedSize (withPositions [⟨0, [1, 4]⟩, ⟨1, []⟩, ⟨2, [9]⟩]) ≤ 255 := by decide
  obtain ⟨-, -, -, hwhole, -⟩ := packing_keeps_front 5 [⟨0, [1, 4]⟩, ⟨1, []⟩, ⟨2, [9]⟩]
  exact ⟨hroom, hwhole hroom⟩

/-- The second hit is cut, and there is no room for the third. -/
example :
    (Posting.pack 5 [⟨0, [1, 4]⟩, ⟨2, List.replicate 300 7⟩, ⟨3, [9]⟩]).payload =
      [0, 2, 1, 4, 2, 249] ++ List.replicate 249 7 := by
  decide +kernel

end TextSearch.Proofs
