import Mathlib.Tactic.Lemma
import TextSearch.Utf8

/-!
# Texts as bytes

The bytes of a text spell that text. A character takes one to four bytes, and its first byte tells how
many they are and which bytes may come next.
-/

namespace TextSearch.Proofs
open Utf8

lemma length_encode_text (s : String) : (encode s).length = size s := by
  rw [encode, size, ← String.size_toByteArray, ← String.utf8Encode_toList, List.utf8Encode,
    List.size_toByteArray]

lemma toNat_ofNat_size {s : String} (h : size s < UInt32.size) :
    (UInt32.ofNat (size s)).toNat = (encode s).length := by
  rw [UInt32.toNat_ofNat_of_lt' h, length_encode_text]

/-! ### First bytes -/

lemma lead_one : ∀ k < 0x80, leadBounds (UInt8.ofNat k) = some (0, 0x80, 0xBF) ∧
    leadBits (UInt8.ofNat k) = k := by
  decide

lemma lead_two : ∀ k < 32, 2 ≤ k → leadBounds (UInt8.ofNat (k + 0xC0)) = some (1, 0x80, 0xBF) ∧
    leadBits (UInt8.ofNat (k + 0xC0)) = k := by
  decide

/-- The second byte keeps out the short characters and the surrogates. -/
lemma lead_three : ∀ k < 16, leadBounds (UInt8.ofNat (k + 0xE0)) =
    some (2, if k = 0 then 0xA0 else 0x80, if k = 0xD then 0x9F else 0xBF) ∧
      leadBits (UInt8.ofNat (k + 0xE0)) = k := by
  decide

/-- The second byte keeps out the short characters and what comes after the last one. -/
lemma lead_four : ∀ k < 5, leadBounds (UInt8.ofNat (k + 0xF0)) =
    some (3, if k = 0 then 0x90 else 0x80, if k = 4 then 0x8F else 0xBF) ∧
      leadBits (UInt8.ofNat (k + 0xF0)) = k := by
  decide

/-! ### Further bytes -/

lemma readRest_ofNat {taken value n k : Nat} {lo hi : UInt8} (bytes : List UInt8) (hk : k < 0x40)
    (hlo : lo.toNat ≤ k + 0x80) (hhi : k + 0x80 ≤ hi.toNat) :
    readRest taken value (n + 1) lo hi (UInt8.ofNat (k + 0x80) :: bytes) =
      readRest (taken + 1) (value * 64 + k) n 0x80 0xBF bytes := by
  have hbyte : (UInt8.ofNat (k + 0x80)).toNat = k + 0x80 :=
    UInt8.toNat_ofNat_of_lt' (Nat.lt_of_lt_of_le (Nat.add_lt_add_right hk 0x80) (by decide))
  have hbits : (k + 0x80) % 64 = k := by omega
  have hin : (lo ≤ UInt8.ofNat (k + 0x80) && UInt8.ofNat (k + 0x80) ≤ hi) = true := by
    rw [Bool.and_eq_true, decide_eq_true_iff, decide_eq_true_iff, UInt8.le_iff_toNat_le,
      UInt8.le_iff_toNat_le, hbyte]
    exact ⟨hlo, hhi⟩
  rw [readRest, if_pos hin, hbyte, hbits]

lemma readRest_tail {taken value n k : Nat} (bytes : List UInt8) (hk : k < 0x40) :
    readRest taken value (n + 1) 0x80 0xBF (UInt8.ofNat (k + 0x80) :: bytes) =
      readRest (taken + 1) (value * 64 + k) n 0x80 0xBF bytes := by
  refine readRest_ofNat bytes hk ?_ ?_
  · exact Nat.le_add_left 0x80 k
  · change k + 0x80 ≤ 0xBF
    omega

lemma readChar_of_lead {b lo hi : UInt8} {n value : Nat} {bytes left : List UInt8} {c : Char}
    (hlead : leadBounds b = some (n, lo, hi)) (hc : Char.ofNat value = c)
    (hrest : readRest 1 (leadBits b) n lo hi bytes = .ok (value, left)) :
    readChar b bytes = .ok (c, left) := by
  unfold readChar
  simp only [hlead, hrest, Except.map, hc]

lemma readChar_utf8EncodeChar (c : Char) (bytes : List UInt8) :
    ∃ b rest, String.utf8EncodeChar c = b :: rest ∧ readChar b (rest ++ bytes) = .ok (c, bytes) := by
  have hc : Char.ofNat c.val.toNat = c := Char.ofNat_toNat c
  have hvalid : c.val.toNat < 0xD800 ∨ 0xDFFF < c.val.toNat ∧ c.val.toNat < 0x110000 := c.valid
  -- The four ranges of characters, by the number of their bytes.
  unfold String.utf8EncodeChar
  generalize c.val.toNat = v at hc hvalid
  dsimp only
  by_cases h1 : v ≤ 0x7F
  · rw [if_pos h1]
    obtain ⟨hbounds, hbits⟩ := lead_one v (by omega)
    refine ⟨_, _, rfl, readChar_of_lead hbounds hc ?_⟩
    rw [hbits, List.nil_append, readRest]
  rw [if_neg h1]
  by_cases h2 : v ≤ 0x7FF
  · rw [if_pos h2]
    obtain ⟨hbounds, hbits⟩ := lead_two (v / 64 % 0x20) (by omega) (by omega)
    have hv : v / 64 % 0x20 * 64 + v % 0x40 = v := by omega
    refine ⟨_, _, rfl, readChar_of_lead hbounds hc ?_⟩
    rw [hbits, List.cons_append, readRest_tail _ (by omega), hv, List.nil_append, readRest]
  rw [if_neg h2]
  by_cases h3 : v ≤ 0xFFFF
  · rw [if_pos h3]
    obtain ⟨hbounds, hbits⟩ := lead_three (v / 4096 % 0x10) (by omega)
    have hv : (v / 4096 % 0x10 * 64 + v / 64 % 0x40) * 64 + v % 0x40 = v := by omega
    refine ⟨_, _, rfl, readChar_of_lead hbounds hc ?_⟩
    rw [hbits, List.cons_append, readRest_ofNat _ (by omega), List.cons_append,
      readRest_tail _ (by omega), hv, List.nil_append, readRest]
    · split
      · change 0xA0 ≤ v / 64 % 0x40 + 0x80
        omega
      · exact Nat.le_add_left 0x80 _
    · split
      · change v / 64 % 0x40 + 0x80 ≤ 0x9F
        omega
      · change v / 64 % 0x40 + 0x80 ≤ 0xBF
        omega
  · rw [if_neg h3]
    obtain ⟨hbounds, hbits⟩ := lead_four (v / 262144 % 0x08) (by omega)
    have hv : ((v / 262144 % 0x08 * 64 + v / 4096 % 0x40) * 64 + v / 64 % 0x40) * 64 + v % 0x40 = v := by
      omega
    refine ⟨_, _, rfl, readChar_of_lead hbounds hc ?_⟩
    rw [hbits, List.cons_append, readRest_ofNat _ (by omega), List.cons_append,
      readRest_tail _ (by omega), List.cons_append, readRest_tail _ (by omega), hv, List.nil_append,
      readRest]
    · split
      · change 0x90 ≤ v / 4096 % 0x40 + 0x80
        omega
      · exact Nat.le_add_left 0x80 _
    · split
      · change v / 4096 % 0x40 + 0x80 ≤ 0x8F
        omega
      · change v / 4096 % 0x40 + 0x80 ≤ 0xBF
        omega

lemma decodeChars_cons (c : Char) {bytes : List UInt8} {cs : List Char}
    (h : decodeChars bytes = .ok cs) :
    decodeChars (String.utf8EncodeChar c ++ bytes) = .ok (c :: cs) := by
  obtain ⟨b, rest, hbytes, hread⟩ := readChar_utf8EncodeChar c bytes
  rw [hbytes, List.cons_append, decodeChars]
  split
  · rename_i fault hfault
    rw [hread] at hfault
    exact absurd hfault (by simp)
  · rename_i d left hok
    rw [hread] at hok
    obtain ⟨rfl, rfl⟩ := Prod.mk.inj (Except.ok.inj hok)
    rw [h]

theorem decode_encode_text (s : String) : decode (encode s) = .ok s := by
  have hchars : ∀ cs : List Char, decodeChars (cs.flatMap String.utf8EncodeChar) = .ok cs := by
    intro cs
    induction cs with
    | nil => rw [List.flatMap_nil, decodeChars]
    | cons c cs ih => exact decodeChars_cons c ih
  rw [decode, encode, hchars, Except.map, String.ofList_toList]

end TextSearch.Proofs
