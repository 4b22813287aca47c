import TextSearch.Proofs.Outcomes
import TextSearch.Proofs.Utf8Texts

/-!
# Bytes as texts

Bytes are read as a text if and only if they are the bytes of that text: no other spelling of a
character, no half of a surrogate pair and nothing beyond the last character is let through.
-/

namespace TextSearch.Proofs
open Utf8

/-! ### What a character is read from -/

/-- The bytes within a character, and those that would start it with more bytes than it needs. -/
lemma lead_none_low : ∀ k < 0x42, leadBounds (UInt8.ofNat (k + 0x80)) = none := by
  decide

/-- The bytes that would start what comes after the last character. -/
lemma lead_none_high : ∀ k < 0xB, leadBounds (UInt8.ofNat (k + 0xF5)) = none := by
  decide

/-- A first byte says how many bytes a character takes, or belongs to none. -/
lemma lead_cases (b : UInt8) : leadBounds b = none ∨ (∃ k < 0x80, b = UInt8.ofNat k) ∨
    (∃ k < 32, 2 ≤ k ∧ b = UInt8.ofNat (k + 0xC0)) ∨ (∃ k < 16, b = UInt8.ofNat (k + 0xE0)) ∨
      ∃ k < 5, b = UInt8.ofNat (k + 0xF0) := by
  have hlt : b.toNat < 256 := b.toNat_lt
  have hb : b = UInt8.ofNat b.toNat := UInt8.ofNat_toNat.symm
  have hshift : ∀ base, base ≤ b.toNat → b = UInt8.ofNat (b.toNat - base + base) := by
    intro base hbase
    rwa [Nat.sub_add_cancel hbase]
  by_cases hlow : 0x80 ≤ b.toNat ∧ b.toNat < 0xC2
  · left
    rw [hshift 0x80 hlow.1]
    exact lead_none_low _ (by omega)
  by_cases hhigh : 0xF5 ≤ b.toNat
  · left
    rw [hshift 0xF5 hhigh]
    exact lead_none_high _ (by omega)
  right
  by_cases h1 : b.toNat < 0x80
  · exact Or.inl ⟨b.toNat, h1, hb⟩
  right
  by_cases h2 : b.toNat < 0xE0
  · exact Or.inl ⟨b.toNat - 0xC0, by omega, by omega, hshift 0xC0 (by omega)⟩
  right
  by_cases h3 : b.toNat < 0xF0
  · exact Or.inl ⟨b.toNat - 0xE0, by omega, hshift 0xE0 (by omega)⟩
  · exact Or.inr ⟨b.toNat - 0xF0, by omega, hshift 0xF0 (by omega)⟩

lemma readRest_eq_ok {taken value n : Nat} {lo hi : UInt8} {bytes : List UInt8}
    {r : Nat × List UInt8} (hlo : 0x80 ≤ lo.toNat) (hhi : hi.toNat ≤ 0xBF)
    (h : readRest taken value (n + 1) lo hi bytes = .ok r) :
    ∃ k rest, bytes = UInt8.ofNat (k + 0x80) :: rest ∧ k < 0x40 ∧ lo.toNat ≤ k + 0x80 ∧
      k + 0x80 ≤ hi.toNat ∧ readRest (taken + 1) (value * 64 + k) n 0x80 0xBF rest = .ok r := by
  cases bytes with
  | nil => simp [readRest] at h
  | cons b rest =>
    rw [readRest] at h
    split at h
    · rename_i hin
      rw [Bool.and_eq_true, decide_eq_true_iff, decide_eq_true_iff, UInt8.le_iff_toNat_le,
        UInt8.le_iff_toNat_le] at hin
      have hk : b.toNat % 64 + 0x80 = b.toNat := by omega
      refine ⟨b.toNat % 64, rest, ?_, by omega, by omega, by omega, h⟩
      rw [hk, UInt8.ofNat_toNat]
    · exact absurd h (by simp)

lemma readRest_tail_eq_ok {taken value n : Nat} {bytes : List UInt8} {r : Nat × List UInt8}
    (h : readRest taken value (n + 1) 0x80 0xBF bytes = .ok r) :
    ∃ k rest, bytes = UInt8.ofNat (k + 0x80) :: rest ∧ k < 0x40 ∧
      readRest (taken + 1) (value * 64 + k) n 0x80 0xBF rest = .ok r := by
  obtain ⟨k, rest, hbytes, hk, -, -, hrest⟩ := readRest_eq_ok (by decide) (by decide) h
  exact ⟨k, rest, hbytes, hk, hrest⟩

lemma readChar_eq_ok {b lo hi : UInt8} {n : Nat} {bytes left : List UInt8} {c : Char}
    (hlead : leadBounds b = some (n, lo, hi)) (h : readChar b bytes = .ok (c, left)) :
    ∃ value, readRest 1 (leadBits b) n lo hi bytes = .ok (value, left) ∧ Char.ofNat value = c := by
  unfold readChar at h
  simp only [hlead] at h
  obtain ⟨⟨value, rest⟩, hrest, hr⟩ := map_eq_ok_iff.mp h
  obtain ⟨rfl, rfl⟩ := Prod.mk.inj hr
  exact ⟨value, hrest, rfl⟩

/-! ### How a number is written -/

lemma val_ofNat {v : Nat} (h : v < 0xD800 ∨ 0xDFFF < v ∧ v < 0x110000) :
    (Char.ofNat v).val.toNat = v := by
  rw [Char.ofNat, dif_pos h]
  rfl

lemma utf8EncodeChar_one {k : Nat} (hk : k < 0x80) :
    String.utf8EncodeChar (Char.ofNat k) = [UInt8.ofNat k] := by
  unfold String.utf8EncodeChar
  rw [val_ofNat (by omega)]
  dsimp only
  rw [if_pos (by omega)]

lemma utf8EncodeChar_two {a k : Nat} (ha : a < 32) (htwo : 2 ≤ a) (hk : k < 0x40) :
    String.utf8EncodeChar (Char.ofNat (a * 64 + k)) =
      [UInt8.ofNat (a + 0xC0), UInt8.ofNat (k + 0x80)] := by
  unfold String.utf8EncodeChar
  rw [val_ofNat (by omega)]
  dsimp only
  rw [if_neg (by omega), if_pos (by omega)]
  have h₁ : (a * 64 + k) / 64 % 0x20 = a := by omega
  have h₂ : (a * 64 + k) % 0x40 = k := by omega
  rw [h₁, h₂]

lemma utf8EncodeChar_three {a k l : Nat} (ha : a < 16) (hk : k < 0x40) (hl : l < 0x40)
    (hlong : a = 0 → 0x20 ≤ k) (hsurrogate : a = 0xD → k < 0x20) :
    String.utf8EncodeChar (Char.ofNat ((a * 64 + k) * 64 + l)) =
      [UInt8.ofNat (a + 0xE0), UInt8.ofNat (k + 0x80), UInt8.ofNat (l + 0x80)] := by
  have h₁ : ((a * 64 + k) * 64 + l) / 4096 % 0x10 = a := by omega
  have h₂ : ((a * 64 + k) * 64 + l) / 64 % 0x40 = k := by omega
  have h₃ : ((a * 64 + k) * 64 + l) % 0x40 = l := by omega
  unfold String.utf8EncodeChar
  rw [val_ofNat (by omega)]
  dsimp only
  rw [if_neg (by omega), if_neg (by omega), if_pos (by omega), h₁, h₂, h₃]

lemma utf8EncodeChar_four {a k l m : Nat} (ha : a < 5) (hk : k < 0x40) (hl : l < 0x40) (hm : m < 0x40)
    (hlong : a = 0 → 0x10 ≤ k) (hlast : a = 4 → k < 0x10) :
    String.utf8EncodeChar (Char.ofNat (((a * 64 + k) * 64 + l) * 64 + m)) =
      [UInt8.ofNat (a + 0xF0), UInt8.ofNat (k + 0x80), UInt8.ofNat (l + 0x80), UInt8.ofNat (m + 0x80)] := by
  have h₁ : (((a * 64 + k) * 64 + l) * 64 + m) / 262144 % 0x08 = a := by omega
  have h₂ : (((a * 64 + k) * 64 + l) * 64 + m) / 4096 % 0x40 = k := by omega
  have h₃ : (((a * 64 + k) * 64 + l) * 64 + m) / 64 % 0x40 = l := by omega
  have h₄ : (((a * 64 + k) * 64 + l) * 64 + m) % 0x40 = m := by omega
  unfold String.utf8EncodeChar
  rw [val_ofNat (by omega)]
  dsimp only
  rw [if_neg (by omega), if_neg (by omega), if_neg (by omega), h₁, h₂, h₃, h₄]

/-! ### Nothing else is a text -/

/-- A character is read from its own bytes only. -/
theorem eq_utf8EncodeChar_of_readChar {b : UInt8} {bytes left : List UInt8} {c : Char}
    (h : readChar b bytes = .ok (c, left)) : b :: bytes = String.utf8EncodeChar c ++ left := by
  obtain hnone | ⟨k, hk, rfl⟩ | ⟨a, ha, htwo, rfl⟩ | ⟨a, ha, rfl⟩ | ⟨a, ha, rfl⟩ := lead_cases b
  · simp [readChar, hnone] at h
  · obtain ⟨hbounds, hbits⟩ := lead_one k hk
    obtain ⟨value, hrest, rfl⟩ := readChar_eq_ok hbounds h
    obtain ⟨rfl, rfl⟩ := Prod.mk.inj (Except.ok.inj hrest)
    rw [hbits, utf8EncodeChar_one hk]
    rfl
  · obtain ⟨hbounds, hbits⟩ := lead_two a ha htwo
    obtain ⟨value, hrest, rfl⟩ := readChar_eq_ok hbounds h
    obtain ⟨k, rest, rfl, hk, hrest⟩ := readRest_tail_eq_ok hrest
    obtain ⟨rfl, rfl⟩ := Prod.mk.inj (Except.ok.inj hrest)
    rw [hbits, utf8EncodeChar_two ha htwo hk]
    rfl
  · obtain ⟨hbounds, hbits⟩ := lead_three a ha
    obtain ⟨value, hrest, rfl⟩ := readChar_eq_ok hbounds h
    obtain ⟨k, rest, rfl, hk, hlo, hhi, hrest⟩ :=
      readRest_eq_ok (by split <;> decide) (by split <;> decide) hrest
    obtain ⟨l, rest, rfl, hl, hrest⟩ := readRest_tail_eq_ok hrest
    obtain ⟨rfl, rfl⟩ := Prod.mk.inj (Except.ok.inj hrest)
    rw [hbits, utf8EncodeChar_three ha hk hl]
    -- The bounds of the second byte leave out what two bytes can say, and the surrogates.
    · rfl
    · rintro rfl
      change 0xA0 ≤ k + 0x80 at hlo
      omega
    · rintro rfl
      change k + 0x80 ≤ 0x9F at hhi
      omega
  · obtain ⟨hbounds, hbits⟩ := lead_four a ha
    obtain ⟨value, hrest, rfl⟩ := readChar_eq_ok hbounds h
    obtain ⟨k, rest, rfl, hk, hlo, hhi, hrest⟩ :=
      readRest_eq_ok (by split <;> decide) (by split <;> decide) hrest
    obtain ⟨l, rest, rfl, hl, hrest⟩ := readRest_tail_eq_ok hrest
    obtain ⟨m, rest, rfl, hm, hrest⟩ := readRest_tail_eq_ok hrest
    obtain ⟨rfl, rfl⟩ := Prod.mk.inj (Except.ok.inj hrest)
    rw [hbits, utf8EncodeChar_four ha hk hl hm]
    -- Here they leave out what three bytes can say, and what comes after the last character.
    · rfl
    · rintro rfl
      change 0x90 ≤ k + 0x80 at hlo
      omega
    · rintro rfl
      change k + 0x80 ≤ 0x8F at hhi
      omega

lemma eq_flatMap_of_decodeChars {bytes : List UInt8} {cs : List Char} (h : decodeChars bytes = .ok cs) :
    bytes = cs.flatMap String.utf8EncodeChar := by
  fun_induction decodeChars bytes generalizing cs with
  | case1 =>
    obtain rfl := Except.ok.inj h
    rfl
  | case2 => exact absurd h (by simp)
  | case3 => exact absurd h (by simp)
  | case4 b rest c left hread cs' hrest ih =>
    obtain rfl := Except.ok.inj h
    rw [eq_utf8EncodeChar_of_readChar hread, ih hrest, List.flatMap_cons]

theorem decode_eq_ok_iff {bytes : List UInt8} {s : String} :
    Utf8.decode bytes = .ok s ↔ bytes = encode s := by
  constructor
  · intro h
    obtain ⟨cs, hcs, rfl⟩ := map_eq_ok_iff.mp h
    rw [encode, String.toList_ofList]
    exact eq_flatMap_of_decodeChars hcs
  · rintro rfl
    exact decode_encode_text s

end TextSearch.Proofs
