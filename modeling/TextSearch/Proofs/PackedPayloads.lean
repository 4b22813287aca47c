import Mathlib.Tactic.Lemma
import TextSearch.Posting

/-!
# Packed payloads

However many field hits are packed, and however long they are, the payload has no fault.
-/

namespace TextSearch.Proofs

lemma payloadFault?_eq_none_iff {payload : List UInt8} :
    payloadFault? payload = none ↔ payload.length ≤ maxPayload ∧ incompleteHit? payload = none := by
  unfold payloadFault?
  by_cases h : maxPayload < payload.length
  · rw [if_pos h]
    simp [Nat.not_le.mpr h]
  · rw [if_neg h]
    simp [Nat.not_lt.mp h]

lemma ofPayload_eq_ok_iff {ordinal : Ordinal} {payload : List UInt8} {p : Posting} :
    Posting.ofPayload ordinal payload = .ok p ↔ payloadFault? payload = none ∧ p = ⟨ordinal, payload⟩ := by
  unfold Posting.ofPayload
  cases payloadFault? payload with
  | none => simp [eq_comm]
  | some fault => simp

lemma toNat_size {p : Posting} (h : payloadFault? p.payload = none) :
    p.size.toNat = p.payload.length :=
  UInt8.toNat_ofNat_of_lt' (Nat.lt_succ_of_le (payloadFault?_eq_none_iff.mp h).1)

/-- Complete field hits in front say nothing about what follows. -/
lemma incompleteHit?_append {payload : List UInt8} (more : List UInt8)
    (h : incompleteHit? payload = none) :
    incompleteHit? (payload ++ more) = incompleteHit? more := by
  fun_induction incompleteHit? payload with
  | case1 => rfl
  | case2 => simp at h
  | case3 field count rest hle ih =>
    have hle' : count.toNat ≤ (rest ++ more).length := by
      rw [List.length_append]
      omega
    rw [List.cons_append, List.cons_append, incompleteHit?, if_pos hle',
      List.drop_append_of_le_length hle]
    exact ih h
  | case4 => simp at h

lemma incompleteHit?_encode {hit : FieldHit} (h : hit.positions.length ≤ maxPayload) :
    incompleteHit? hit.encode = none := by
  have hcount : (UInt8.ofNat hit.positions.length).toNat = hit.positions.length :=
    UInt8.toNat_ofNat_of_lt' (Nat.lt_succ_of_le h)
  rw [FieldHit.encode, incompleteHit?, hcount, if_pos (Nat.le_refl _), List.drop_length, incompleteHit?]

/-- What is packed of a field hit fits. -/
lemma length_le_of_fitted {used : Nat} {hit kept : FieldHit}
    (h : Posting.fitted used hit = some kept) : used + 2 + kept.positions.length ≤ maxPayload := by
  unfold Posting.fitted at h
  dsimp only at h
  split at h
  · exact absurd h (by simp)
  · rename_i hroom
    rw [Bool.or_eq_true, decide_eq_true_iff, not_or, Nat.not_le] at hroom
    obtain rfl := Option.some.inj h
    have htaken : (hit.positions.take (maxPayload - used - 2)).length ≤ maxPayload - used - 2 :=
      List.length_take_le _ _
    dsimp only
    omega

lemma payloadFault?_packHit {payload : List UInt8} (h : payloadFault? payload = none)
    (hit : FieldHit) : payloadFault? (Posting.packHit payload hit) = none := by
  unfold Posting.packHit
  cases hkept : Posting.fitted payload.length hit with
  | none => exact h
  | some kept =>
    have hfits := length_le_of_fitted hkept
    obtain ⟨-, hcomplete⟩ := payloadFault?_eq_none_iff.mp h
    refine payloadFault?_eq_none_iff.mpr ⟨?_, ?_⟩
    · rw [List.length_append, FieldHit.encode, List.length_cons, List.length_cons]
      omega
    · rw [incompleteHit?_append _ hcomplete]
      exact incompleteHit?_encode (Nat.le_trans (Nat.le_add_left _ _) hfits)

theorem payloadFault?_pack (ordinal : Ordinal) (hits : List FieldHit) :
    payloadFault? (Posting.pack ordinal hits).payload = none := by
  have hfold : ∀ payload, payloadFault? payload = none →
      payloadFault? (hits.foldl Posting.packHit payload) = none := by
    induction hits with
    | nil => exact fun _ h => h
    | cons hit hits ih => exact fun payload h => ih _ (payloadFault?_packHit h hit)
  exact hfold [] (by simp [payloadFault?, incompleteHit?])

lemma packHit_ne_nil {payload : List UInt8} {hit : FieldHit}
    (h : payload ≠ [] ∨ hit.positions ≠ []) : Posting.packHit payload hit ≠ [] := by
  unfold Posting.packHit
  cases hkept : Posting.fitted payload.length hit with
  | some kept => simp [FieldHit.encode]
  | none =>
    rcases h with hpayload | hpositions
    · exact hpayload
    -- an empty payload has room for some position
    · rintro rfl
      simp [Posting.fitted, hpositions, maxPayload] at hkept

/-- A payload is empty only if no field hit has positions. -/
lemma payload_pack_ne_nil (ordinal : Ordinal) {hits : List FieldHit}
    (h : ∃ hit ∈ hits, hit.positions ≠ []) : (Posting.pack ordinal hits).payload ≠ [] := by
  have hfold : ∀ (hits : List FieldHit) (payload : List UInt8), payload ≠ [] →
      hits.foldl Posting.packHit payload ≠ [] := by
    intro hits
    induction hits with
    | nil => exact fun _ h => h
    | cons hit hits ih => exact fun payload h => ih _ (packHit_ne_nil (.inl h))
  obtain ⟨hit, hmem, hpositions⟩ := h
  obtain ⟨before, after, rfl⟩ := List.append_of_mem hmem
  rw [Posting.pack, List.foldl_append, List.foldl_cons]
  exact hfold after _ (packHit_ne_nil (.inr hpositions))

end TextSearch.Proofs
