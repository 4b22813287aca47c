import TextSearch.LittleEndian.Lemmas
import TextSearch.Proofs.Outcomes
import TextSearch.Proofs.Utf8Decoding
import TextSearch.Storage.Reader

/-!
# What a read takes

A read that succeeds has taken bytes of a certain form from the front, and the reader goes on with all
the others.
-/

namespace TextSearch.Proofs
open Storage

/-- Whether the bytes that a read takes have a form that tells the value. -/
def Takes {α : Type} (read : Read α) (form : List UInt8 → α → Prop) : Prop :=
  ∀ {r r' : Reader} {x : α}, read r = .ok (x, r') → ∃ bytes, form bytes x ∧ r.rest = bytes ++ r'.rest

/-- Bytes cut into pieces, each with the value that it is the form of. -/
structure IsSplit {α : Type} (form : List UInt8 → α → Prop) (bytes : List UInt8)
    (pieces : List (List UInt8 × α)) : Prop where
  forms : ∀ piece ∈ pieces, form piece.1 piece.2
  whole : (pieces.map Prod.fst).flatten = bytes

section Splits

variable {α : Type} {form : List UInt8 → α → Prop} {encode : α → List UInt8}
  {bytes more : List UInt8} {pieces others : List (List UInt8 × α)}

lemma isSplit_nil : IsSplit form [] [] := ⟨by simp, rfl⟩

lemma IsSplit.cons {x : α} (hx : form bytes x) (h : IsSplit form more pieces) :
    IsSplit form (bytes ++ more) ((bytes, x) :: pieces) where
  forms := List.forall_mem_cons.mpr ⟨hx, h.forms⟩
  whole := by rw [List.map_cons, List.flatten_cons, h.whole]

lemma IsSplit.append (h : IsSplit form bytes pieces) (h' : IsSplit form more others) :
    IsSplit form (bytes ++ more) (pieces ++ others) where
  forms := List.forall_mem_append.mpr ⟨h.forms, h'.forms⟩
  whole := by rw [List.map_append, List.flatten_append, h.whole, h'.whole]

/-- Where each value has one form, the values tell the pieces. -/
lemma IsSplit.eq_map (h : IsSplit form bytes pieces) (hform : ∀ bytes x, form bytes x → bytes = encode x) :
    pieces = (pieces.map Prod.snd).map fun x => (encode x, x) := by
  have hpieces : ∀ piece ∈ pieces, (encode piece.2, piece.2) = piece := fun piece hpiece =>
    Prod.ext (hform _ _ (h.forms piece hpiece)).symm rfl
  rw [List.map_map]
  exact (List.map_congr_left hpieces).trans (List.map_id _) |>.symm

lemma IsSplit.eq_flatMap (h : IsSplit form bytes pieces)
    (hform : ∀ bytes x, form bytes x → bytes = encode x) : bytes = (pieces.map Prod.snd).flatMap encode := by
  rw [← h.whole, List.flatMap_def, List.map_map]
  congr 1
  exact List.map_congr_left fun piece hpiece => hform _ _ (h.forms piece hpiece)

lemma isSplit_written {xs : List α} (h : ∀ x ∈ xs, form (encode x) x) :
    IsSplit form (xs.flatMap encode) (xs.map fun x => (encode x, x)) where
  forms := List.forall_mem_map.mpr h
  whole := by rw [List.map_map, List.flatMap_def]; rfl

lemma map_snd_written (xs : List α) : (xs.map fun x => (encode x, x)).map Prod.snd = xs := by
  rw [List.map_map]
  exact List.map_id _

end Splits

lemma takes_bytes (n : Nat) : Takes (Reader.bytes n) fun bytes x => bytes = x ∧ x.length = n := by
  intro r r' x h
  obtain ⟨hrest, hlength, -, -⟩ := Reader.bytes_eq_ok_iff.mp h
  exact ⟨x, ⟨rfl, hlength⟩, hrest⟩

lemma takes_number (width : Nat) :
    Takes (Reader.number width) fun bytes n => bytes = LittleEndian.encode width n ∧ n < 256 ^ width := by
  intro r r' n h
  obtain ⟨⟨taken, r₁⟩, hbytes, hr⟩ := bind_eq_ok_iff.mp h
  obtain ⟨rfl, rfl⟩ := Prod.mk.inj (Except.ok.inj hr)
  obtain ⟨bytes, ⟨rfl, rfl⟩, hrest⟩ := takes_bytes width hbytes
  exact ⟨bytes, ⟨(LittleEndian.encode_decode bytes).symm, LittleEndian.decode_lt bytes⟩, hrest⟩

lemma ofNat_eq_of_toNat_eq {n : Nat} {b : UInt8} (h : n = b.toNat) : UInt8.ofNat n = b := by
  rw [h, UInt8.ofNat_toNat]

lemma takes_byte : Takes Reader.byte fun bytes b => bytes = [b] := by
  intro r r' b h
  obtain ⟨⟨n, r₁⟩, hnumber, hr⟩ := bind_eq_ok_iff.mp h
  obtain ⟨rfl, rfl⟩ := Prod.mk.inj (Except.ok.inj hr)
  obtain ⟨bytes, ⟨rfl, -⟩, hrest⟩ := takes_number 1 hnumber
  exact ⟨_, rfl, hrest⟩

lemma takes_word32 : Takes Reader.word32 fun bytes n => bytes = LittleEndian.word32 n := by
  intro r r' w h
  obtain ⟨⟨n, r₁⟩, hnumber, hr⟩ := bind_eq_ok_iff.mp h
  obtain ⟨rfl, rfl⟩ := Prod.mk.inj (Except.ok.inj hr)
  obtain ⟨bytes, ⟨rfl, hlt⟩, hrest⟩ := takes_number 4 hnumber
  refine ⟨_, ?_, hrest⟩
  change _ = LittleEndian.encode 4 (UInt32.ofNat n).toNat
  rw [UInt32.toNat_ofNat_of_lt' hlt]

lemma takes_word64 : Takes Reader.word64 fun bytes n => bytes = LittleEndian.word64 n := by
  intro r r' w h
  obtain ⟨⟨n, r₁⟩, hnumber, hr⟩ := bind_eq_ok_iff.mp h
  obtain ⟨rfl, rfl⟩ := Prod.mk.inj (Except.ok.inj hr)
  obtain ⟨bytes, ⟨rfl, hlt⟩, hrest⟩ := takes_number 8 hnumber
  refine ⟨_, ?_, hrest⟩
  change _ = LittleEndian.encode 8 (UInt64.ofNat n).toNat
  rw [UInt64.toNat_ofNat_of_lt' hlt]

lemma text_eq_ok_iff {r : Reader} {bytes : List UInt8} {s : String} :
    r.text bytes = .ok s ↔ bytes = Utf8.encode s := by
  rw [← decode_eq_ok_iff]
  unfold Reader.text
  split
  · rename_i t ht
    rw [ht]
    simp
  · rename_i fault hfault
    rw [hfault]
    simp

lemma takes_many {α : Type} {read : Read α} {form : List UInt8 → α → Prop} (h : Takes read form)
    (n : Nat) : Takes (Reader.many read n) fun bytes xs =>
      ∃ pieces, IsSplit form bytes pieces ∧ pieces.map Prod.snd = xs ∧ xs.length = n := by
  induction n with
  | zero =>
    intro r r' xs hr
    obtain ⟨rfl, rfl⟩ := Prod.mk.inj (Except.ok.inj hr)
    exact ⟨[], ⟨[], isSplit_nil, rfl, rfl⟩, rfl⟩
  | succ n ih =>
    intro r r' xs hr
    obtain ⟨⟨x, r₁⟩, hx, hr⟩ := bind_eq_ok_iff.mp hr
    obtain ⟨⟨rest, r₂⟩, hrest, hr⟩ := bind_eq_ok_iff.mp hr
    obtain ⟨rfl, rfl⟩ := Prod.mk.inj (Except.ok.inj hr)
    obtain ⟨bytes, hform, hbytes⟩ := h hx
    obtain ⟨more, ⟨pieces, hsplit, hvalues, hlength⟩, hmore⟩ := ih hrest
    refine ⟨bytes ++ more, ⟨(bytes, x) :: pieces, hsplit.cons hform, ?_, ?_⟩, ?_⟩
    · rw [List.map_cons, hvalues]
    · rw [List.length_cons, hlength]
    · rw [hbytes, hmore, List.append_assoc]

/-- Values of which each is taken as it is written. -/
lemma takes_many_written {α : Type} {read : Read α} {encode : α → List UInt8}
    (h : Takes read fun bytes x => bytes = encode x) (n : Nat) :
    Takes (Reader.many read n) fun bytes xs => bytes = xs.flatMap encode ∧ xs.length = n := by
  intro r r' xs hr
  obtain ⟨bytes, ⟨pieces, hsplit, rfl, hlength⟩, hrest⟩ := takes_many h n hr
  exact ⟨bytes, ⟨hsplit.eq_flatMap fun _ _ hform => hform, hlength⟩, hrest⟩

end TextSearch.Proofs
