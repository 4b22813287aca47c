import Mathlib.Data.List.Infix
import TextSearch.LittleEndian.Lemmas
import TextSearch.Proofs.Outcomes
import TextSearch.Proofs.Utf8Texts
import TextSearch.Storage.Reader

/-!
# Reading what was written

A value that was written is read back wherever its bytes stand and whatever follows them, and if bytes are
missing at their end, reading fails there. Values that were written one after the other are read back in
the same order.
-/

namespace TextSearch.Proofs
open Storage

/-- Whether reading gives a value and ends behind some bytes, wherever they stand. -/
def Reads {α : Type} (read : Read α) (bytes : List UInt8) (x : α) : Prop :=
  ∀ path offset tail,
    read ⟨path, offset, bytes ++ tail⟩ = .ok (x, ⟨path, offset + bytes.length, tail⟩)

/-- Reading failed because the bytes end: at a place within them, more were needed than they have. -/
def EndsEarly {α : Type} (result : Except SearchError α) (path : String) (size : Nat) : Prop :=
  ∃ offset needed, result = .error (.truncated path offset needed) ∧ offset ≤ size ∧
    size < offset + needed

/-- Whether reading fails so whenever only a part of some bytes is there, wherever they stand. -/
def NoticesCut {α : Type} (read : Read α) (bytes : List UInt8) : Prop :=
  ∀ path offset k, k < bytes.length → EndsEarly (read ⟨path, offset, bytes.take k⟩) path (offset + k)

/-- Bytes that are read as a value if all of them are there, and not if only a part is. -/
structure ReadsExactly {α : Type} (read : Read α) (bytes : List UInt8) (x : α) : Prop where
  reads : Reads read bytes x
  noticesCut : NoticesCut read bytes

section Steps

variable {α β : Type} {read : Read α} {next : α × Reader → Except SearchError (β × Reader)}
  {bytes more : List UInt8} {x : α} {y : β}

lemma EndsEarly.bind {result : Except SearchError α} {path : String} {size : Nat}
    (h : EndsEarly result path size) (f : α → Except SearchError β) :
    EndsEarly (result >>= f) path size := by
  obtain ⟨offset, needed, hresult, hle, hlt⟩ := h
  refine ⟨offset, needed, ?_, hle, hlt⟩
  rw [hresult, error_bind]

lemma Reads.bind (h : Reads read bytes x) (h' : Reads (fun r => next (x, r)) more y) :
    Reads (fun r => read r >>= next) (bytes ++ more) y := by
  intro path offset tail
  have hx := h path offset (more ++ tail)
  have hy := h' path (offset + bytes.length) tail
  dsimp only at hy ⊢
  rw [List.append_assoc, hx, ok_bind, hy, List.length_append, Nat.add_assoc]

lemma NoticesCut.bind (hreads : Reads read bytes x) (h : NoticesCut read bytes)
    (h' : NoticesCut (fun r => next (x, r)) more) :
    NoticesCut (fun r => read r >>= next) (bytes ++ more) := by
  intro path offset k hk
  rw [List.length_append] at hk
  by_cases hcut : k < bytes.length
  · -- The cut lies in the first value.
    have htake : (bytes ++ more).take k = bytes.take k := List.take_append_of_le_length (Nat.le_of_lt hcut)
    rw [htake]
    exact (h path offset k hcut).bind next
  · have htake : (bytes ++ more).take k = bytes ++ more.take (k - bytes.length) := by
      rw [List.take_append, List.take_of_length_le (by omega)]
    have hsize : offset + bytes.length + (k - bytes.length) = offset + k := by omega
    have hrest := h' path (offset + bytes.length) (k - bytes.length) (by omega)
    rw [hsize] at hrest
    dsimp only at hrest ⊢
    rw [htake, hreads path offset (more.take (k - bytes.length)), ok_bind]
    exact hrest

/-- Reads one value and goes on behind it. -/
lemma ReadsExactly.bind (h : ReadsExactly read bytes x)
    (h' : ReadsExactly (fun r => next (x, r)) more y) :
    ReadsExactly (fun r => read r >>= next) (bytes ++ more) y :=
  ⟨h.reads.bind h'.reads, NoticesCut.bind h.reads h.noticesCut h'.noticesCut⟩

/-- Reads one last value. What is done with it may tell where it was. -/
lemma ReadsExactly.finish {next : Reader → α × Reader → Except SearchError (β × Reader)}
    (h : ReadsExactly read bytes x) (hnext : ∀ r r', next r (x, r') = .ok (y, r')) :
    ReadsExactly (fun r => read r >>= next r) bytes y where
  reads path offset tail := by
    have hx := h.reads path offset tail
    dsimp only
    rw [hx, ok_bind, hnext]
  noticesCut path offset k hk := (h.noticesCut path offset k hk).bind _

lemma reads_nothing (y : β) : ReadsExactly (fun r => .ok (y, r)) [] y where
  reads _ _ _ := rfl
  noticesCut _ _ k hk := absurd hk (Nat.not_lt_zero k)

end Steps

lemma reads_bytes (bytes : List UInt8) : ReadsExactly (Reader.bytes bytes.length) bytes bytes where
  reads _ _ _ := Reader.bytes_eq_ok_iff.mpr ⟨rfl, rfl, rfl, rfl⟩
  noticesCut path offset k hk := by
    have hfew : (bytes.take k).length < bytes.length := by
      rw [List.length_take]
      omega
    exact ⟨offset, bytes.length, Reader.bytes_eq_error_iff.mpr ⟨hfew, rfl⟩, by omega, by omega⟩

lemma reads_number {width n : Nat} (h : n < 256 ^ width) :
    ReadsExactly (Reader.number width) (LittleEndian.encode width n) n := by
  have hbytes := reads_bytes (LittleEndian.encode width n)
  rw [LittleEndian.length_encode] at hbytes
  refine hbytes.finish fun _ r => ?_
  dsimp only
  rw [LittleEndian.decode_encode, Nat.mod_eq_of_lt h]
  rfl

lemma reads_byte (b : UInt8) : ReadsExactly Reader.byte [b] b := by
  have hnumber : ReadsExactly (Reader.number 1) (LittleEndian.encode 1 b.toNat) b.toNat :=
    reads_number b.toNat_lt
  have hb : LittleEndian.encode 1 b.toNat = [b] := by simp [LittleEndian.encode]
  rw [hb] at hnumber
  refine hnumber.finish fun _ r => ?_
  dsimp only
  rw [UInt8.ofNat_toNat]
  rfl

/-- A number below 2^32 that takes four bytes. -/
lemma reads_small {n : Nat} (h : n < UInt32.size) :
    ReadsExactly Reader.word32 (LittleEndian.encode 4 n) (UInt32.ofNat n) :=
  ReadsExactly.finish (reads_number h) fun _ _ => rfl

lemma reads_word32 (n : UInt32) : ReadsExactly Reader.word32 (LittleEndian.word32 n) n := by
  have h := reads_small n.toNat_lt
  rwa [UInt32.ofNat_toNat] at h

lemma reads_word64 (n : UInt64) : ReadsExactly Reader.word64 (LittleEndian.word64 n) n := by
  have hnumber : ReadsExactly (Reader.number 8) (LittleEndian.encode 8 n.toNat) n.toNat :=
    reads_number n.toNat_lt
  refine hnumber.finish fun _ r => ?_
  dsimp only
  rw [UInt64.ofNat_toNat]
  rfl

lemma reads_single (x : Decimal.Single) :
    ReadsExactly Reader.single (LittleEndian.word32 x.bits) x :=
  ReadsExactly.finish (reads_word32 x.bits) fun _ _ => rfl

lemma text_encode (r : Reader) (s : String) : r.text (Utf8.encode s) = .ok s := by
  unfold Reader.text
  rw [decode_encode_text]

/-- Values that are written one after the other, each with what is read of it. -/
lemma reads_many {α β : Type} {read : Read β} {encode : α → List UInt8} (kept : α → β) {xs : List α}
    (h : ∀ x ∈ xs, ReadsExactly read (encode x) (kept x)) :
    ReadsExactly (Reader.many read xs.length) (xs.flatMap encode) (xs.map kept) := by
  induction xs with
  | nil => exact reads_nothing []
  | cons x xs ih =>
    have hxs := ih fun y hy => h y (List.mem_cons_of_mem _ hy)
    rw [List.flatMap_cons]
    exact (h x List.mem_cons_self).bind (hxs.finish fun _ _ => rfl)

end TextSearch.Proofs
