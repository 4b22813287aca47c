import Mathlib.Data.Nat.Digits.Defs
import TextSearch.Proofs.ReaderForms

/-!
# Histories of a reader

Whatever is read from some bytes, the reads that succeed take them piece by piece from the front, and the reader stands
where the pieces end. A read fails if and only if fewer bytes are left than it needs, and then nothing has happened.
-/

namespace TextSearch.Proofs
open Storage

/-- A value that a reader can be asked for. -/
inductive Item where
  | byte
  | word32
  | word64
  | single
  | bytes (n : Nat)

/-- How many bytes a value takes. -/
def Item.size : Item → Nat
  | .byte => 1
  | .word32 => 4
  | .word64 => 8
  | .single => 4
  | .bytes n => n

/-- What a reader finds, or a text that it has checked. -/
inductive Found where
  | byte (b : UInt8)
  | word32 (n : UInt32)
  | word64 (n : UInt64)
  | single (x : Decimal.Single)
  | bytes (taken : List UInt8)
  | text (s : String)

/-- As many bytes as a width says that stand for a number, the first of them for its lowest digit to the base 256. -/
structure StandFor (bytes : List UInt8) (width n : Nat) : Prop where
  length : bytes.length = width
  value : n = Nat.ofDigits 256 (bytes.map UInt8.toNat)

/-- A value of the kind that was asked for, and the bytes that it takes. -/
inductive IsFormOf : Item → List UInt8 → Found → Prop where
  | byte {bytes : List UInt8} {b : UInt8} (h : StandFor bytes 1 b.toNat) : IsFormOf .byte bytes (.byte b)
  | word32 {bytes : List UInt8} {n : UInt32} (h : StandFor bytes 4 n.toNat) : IsFormOf .word32 bytes (.word32 n)
  | word64 {bytes : List UInt8} {n : UInt64} (h : StandFor bytes 8 n.toNat) : IsFormOf .word64 bytes (.word64 n)
  | single {bytes : List UInt8} {x : Decimal.Single} (h : StandFor bytes 4 x.bits.toNat) :
      IsFormOf .single bytes (.single x)
  | bytes (taken : List UInt8) : IsFormOf (.bytes taken.length) taken (.bytes taken)

/-- Reads a value and tells of what kind it is. -/
def finding {α : Type} (read : Read α) (make : α → Found) : Read Found := fun r => do
  let (x, r) ← read r
  return (make x, r)

def Item.read : Item → Read Found
  | .byte => finding Reader.byte .byte
  | .word32 => finding Reader.word32 .word32
  | .word64 => finding Reader.word64 .word64
  | .single => finding Reader.single .single
  | .bytes n => finding (Reader.bytes n) .bytes

/-- A call on a reader: a read, or a look whether some bytes are a text. -/
inductive ReaderCall where
  | read (item : Item)
  | check (bytes : List UInt8)

/-- The reader after a call, and what the call gives. A reader that failed is used again as it was. -/
def ReaderCall.run (r : Reader) : ReaderCall → Reader × Except SearchError Found
  | .read item =>
    match item.read r with
    | .ok (found, after) => (after, .ok found)
    | .error e => (r, .error e)
  | .check bytes => (r, (r.text bytes).map Found.text)

def readerAfter (r : Reader) (calls : List ReaderCall) : Reader := calls.foldl (fun r call => (call.run r).1) r

/-- What a call has read: one value, or none if it failed or read nothing. -/
def ReaderCall.found (r : Reader) : ReaderCall → List (Item × Found)
  | .read item =>
    match item.read r with
    | .ok (found, _) => [(item, found)]
    | .error _ => []
  | .check _ => []

/-- All that some calls have read, in their order. -/
def valuesRead (r : Reader) : List ReaderCall → List (Item × Found)
  | [] => []
  | call :: calls => call.found r ++ valuesRead (call.run r).1 calls

/-! ### One read -/

lemma decode_eq_ofDigits_map (bytes : List UInt8) :
    LittleEndian.decode bytes = Nat.ofDigits 256 (bytes.map UInt8.toNat) := by
  induction bytes with
  | nil => rfl
  | cons b bytes ih => rw [LittleEndian.decode, ih, List.map_cons, Nat.ofDigits_cons]

/-- A number that its bytes have room for is the one they stand for. -/
lemma standFor_of_eq_mod {bytes : List UInt8} {width n : Nat} (hlength : bytes.length = width)
    (hn : n = LittleEndian.decode bytes % 256 ^ width) : StandFor bytes width n := by
  refine ⟨hlength, ?_⟩
  subst hlength
  rw [hn, Nat.mod_eq_of_lt (LittleEndian.decode_lt bytes), decode_eq_ofDigits_map]

/-- The value that some bytes are read as. -/
def Item.value (bytes : List UInt8) : Item → Found
  | .byte => .byte (UInt8.ofNat (LittleEndian.decode bytes))
  | .word32 => .word32 (UInt32.ofNat (LittleEndian.decode bytes))
  | .word64 => .word64 (UInt64.ofNat (LittleEndian.decode bytes))
  | .single => .single ⟨UInt32.ofNat (LittleEndian.decode bytes)⟩
  | .bytes _ => .bytes bytes

/-- Every read takes its bytes first, and what it makes of them cannot fail. -/
lemma read_eq_map (item : Item) (r : Reader) :
    item.read r = (Reader.bytes item.size r).map fun x => (item.value x.1, x.2) := by
  cases item <;>
    simp only [Item.read, Item.size, finding, Reader.byte, Reader.word32, Reader.word64, Reader.single, Reader.number] <;>
    cases Reader.bytes _ r <;> rfl

lemma isFormOf_value {item : Item} {bytes : List UInt8} (h : bytes.length = item.size) :
    IsFormOf item bytes (item.value bytes) := by
  cases item with
  | byte => exact .byte (standFor_of_eq_mod h UInt8.toNat_ofNat')
  | word32 => exact .word32 (standFor_of_eq_mod h UInt32.toNat_ofNat')
  | word64 => exact .word64 (standFor_of_eq_mod h UInt64.toNat_ofNat')
  | single => exact .single (standFor_of_eq_mod h UInt32.toNat_ofNat')
  | bytes n =>
    obtain rfl : bytes.length = n := h
    exact .bytes bytes

lemma read_eq_ok {item : Item} {r : Reader} (h : item.size ≤ r.rest.length) :
    item.read r = .ok (item.value (r.rest.take item.size), ⟨r.path, r.offset + item.size, r.rest.drop item.size⟩) := by
  have hbytes : Reader.bytes item.size r =
      .ok (r.rest.take item.size, ⟨r.path, r.offset + item.size, r.rest.drop item.size⟩) :=
    Reader.bytes_eq_ok_iff.mpr ⟨(List.take_append_drop _ _).symm, List.length_take_of_le h, rfl, rfl⟩
  rw [read_eq_map, hbytes]
  rfl

lemma read_eq_error {item : Item} {r : Reader} (h : r.rest.length < item.size) :
    item.read r = .error (.truncated r.path r.offset item.size) := by
  rw [read_eq_map, Reader.bytes_eq_error_iff.mpr ⟨h, rfl⟩]
  rfl

/-! ### Many reads -/

/-- A reader over some bytes, all of them or what is left from its place on. -/
structure StandsIn (path : String) (bytes : List UInt8) (r : Reader) : Prop where
  path : r.path = path
  within : r.offset ≤ bytes.length
  rest : r.rest = bytes.drop r.offset

variable {path : String} {bytes : List UInt8} {r : Reader}

lemma standsIn_ofBytes (path : String) (bytes : List UInt8) : StandsIn path bytes (Reader.ofBytes path bytes) :=
  ⟨rfl, Nat.zero_le _, rfl⟩

lemma StandsIn.length_rest (h : StandsIn path bytes r) : r.rest.length = bytes.length - r.offset := by
  rw [h.rest, List.length_drop]

lemma StandsIn.isEmpty_iff (h : StandsIn path bytes r) : r.isEmpty = true ↔ r.offset = bytes.length := by
  have hwithin := h.within
  rw [Reader.isEmpty, List.isEmpty_iff_length_eq_zero, h.length_rest]
  omega

/-- The value that a reader finds next. -/
def nextValue (bytes : List UInt8) (r : Reader) (item : Item) : Found :=
  item.value ((bytes.drop r.offset).take item.size)

lemma StandsIn.read_of_le (h : StandsIn path bytes r) {item : Item} (hle : item.size ≤ bytes.length - r.offset) :
    item.read r = .ok (nextValue bytes r item, ⟨path, r.offset + item.size, bytes.drop (r.offset + item.size)⟩) := by
  have hread := read_eq_ok (h.length_rest ▸ hle : item.size ≤ r.rest.length)
  rw [hread, h.rest, h.path, List.drop_drop, nextValue]

lemma StandsIn.read_of_lt (h : StandsIn path bytes r) {item : Item} (hlt : bytes.length - r.offset < item.size) :
    item.read r = .error (.truncated path r.offset item.size) := by
  rw [read_eq_error (h.length_rest ▸ hlt : r.rest.length < item.size), h.path]

lemma StandsIn.isFormOf_nextValue {item : Item} (hle : item.size ≤ bytes.length - r.offset) :
    IsFormOf item ((bytes.drop r.offset).take item.size) (nextValue bytes r item) := by
  apply isFormOf_value
  rw [List.length_take, List.length_drop, Nat.min_eq_left hle]

/-- Bytes cut into the forms of some values. -/
def IsSplitInto (bytes : List UInt8) (values : List (Item × Found)) : Prop :=
  ∃ pieces, IsSplit (fun piece (value : Item × Found) => IsFormOf value.1 piece value.2) bytes pieces ∧
    pieces.map Prod.snd = values

lemma isSplitInto_nil : IsSplitInto [] [] := ⟨[], isSplit_nil, rfl⟩

lemma IsSplitInto.next {values : List (Item × Found)} (h : IsSplitInto bytes values) {item : Item} {found : Found}
    {piece : List UInt8} (hpiece : IsFormOf item piece found) : IsSplitInto (bytes ++ piece) (values ++ [(item, found)]) := by
  obtain ⟨pieces, hsplit, rfl⟩ := h
  have hone : IsSplit (fun piece (value : Item × Found) => IsFormOf value.1 piece value.2) (piece ++ [])
      [(piece, item, found)] := IsSplit.cons hpiece isSplit_nil
  rw [List.append_nil] at hone
  exact ⟨pieces ++ [(piece, item, found)], hsplit.append hone, by rw [List.map_append]; rfl⟩

/-- A reader that has taken some values from the front of the bytes. -/
structure HasTaken (path : String) (bytes : List UInt8) (values : List (Item × Found)) (r : Reader) : Prop
    extends StandsIn path bytes r where
  taken : IsSplitInto (bytes.take r.offset) values

/-- A call takes the bytes of one more value, or none. -/
lemma HasTaken.run {values : List (Item × Found)} (h : HasTaken path bytes values r) (call : ReaderCall) :
    HasTaken path bytes (values ++ call.found r) (call.run r).1 := by
  cases call with
  | check checked =>
    rw [ReaderCall.found, List.append_nil]
    exact h
  | read item =>
    rw [ReaderCall.found, ReaderCall.run]
    by_cases hle : item.size ≤ bytes.length - r.offset
    · have hwithin := h.within
      have htake : bytes.take (r.offset + item.size) =
          bytes.take r.offset ++ (bytes.drop r.offset).take item.size := List.take_add
      rw [h.read_of_le hle]
      refine ⟨⟨rfl, ?_, rfl⟩, ?_⟩
      · dsimp only
        omega
      · dsimp only
        rw [htake]
        exact h.taken.next (StandsIn.isFormOf_nextValue hle)
    · rw [h.read_of_lt (Nat.lt_of_not_le hle), List.append_nil]
      exact h

lemma HasTaken.after {values : List (Item × Found)} (h : HasTaken path bytes values r) (calls : List ReaderCall) :
    HasTaken path bytes (values ++ valuesRead r calls) (readerAfter r calls) := by
  induction calls generalizing r values with
  | nil =>
    rw [valuesRead, List.append_nil]
    exact h
  | cons call calls ih =>
    rw [valuesRead, ← List.append_assoc]
    exact ih (h.run call)

/-- What the next call comes to depends on how many bytes are left. -/
structure ReadsWhatIsLeft (path : String) (bytes : List UInt8) (r : Reader) : Prop where
  isEmpty : r.isEmpty = true ↔ r.offset = bytes.length
  succeeds : ∀ item : Item, item.size ≤ bytes.length - r.offset →
    ∃ found, (ReaderCall.read item).run r =
        (⟨path, r.offset + item.size, bytes.drop (r.offset + item.size)⟩, .ok found) ∧
      IsFormOf item ((bytes.drop r.offset).take item.size) found
  fails : ∀ (item : Item) (e : SearchError), ((ReaderCall.read item).run r).2 = .error e ↔
    bytes.length - r.offset < item.size ∧ e = .truncated path r.offset item.size
  unchanged : ∀ (item : Item) (e : SearchError), ((ReaderCall.read item).run r).2 = .error e →
    ((ReaderCall.read item).run r).1 = r
  retried : ∀ item smaller : Item, bytes.length - r.offset < item.size → smaller.size ≤ bytes.length - r.offset →
    ∃ found, ((ReaderCall.read smaller).run ((ReaderCall.read item).run r).1).2 = .ok found
  checked : ∀ (text : List UInt8) (s : String),
    (ReaderCall.check text).run r = (r, .ok (.text s)) ↔ text = Utf8.encode s
  checkStays : ∀ text : List UInt8, ((ReaderCall.check text).run r).1 = r

lemma StandsIn.readsWhatIsLeft (h : StandsIn path bytes r) : ReadsWhatIsLeft path bytes r where
  isEmpty := h.isEmpty_iff
  succeeds item hle := by
    refine ⟨nextValue bytes r item, ?_, StandsIn.isFormOf_nextValue hle⟩
    rw [ReaderCall.run, h.read_of_le hle]
  fails item e := by
    rw [ReaderCall.run]
    by_cases hle : item.size ≤ bytes.length - r.offset
    · rw [h.read_of_le hle]
      simp [Nat.not_lt.mpr hle]
    · rw [h.read_of_lt (Nat.lt_of_not_le hle)]
      simp [Nat.lt_of_not_le hle, eq_comm]
  unchanged item e he := by
    rw [ReaderCall.run] at he ⊢
    cases hread : item.read r with
    | error fault => rfl
    | ok x =>
      rw [hread] at he
      exact absurd he (by simp)
  retried item smaller hlt hle := by
    have hsame : ((ReaderCall.read item).run r).1 = r := by rw [ReaderCall.run, h.read_of_lt hlt]
    refine ⟨nextValue bytes r smaller, ?_⟩
    rw [hsame, ReaderCall.run, h.read_of_le hle]
  checked text s := by
    rw [← text_eq_ok_iff (r := r), ReaderCall.run]
    cases r.text text <;> simp [Except.map]
  checkStays _ := rfl

/-- After any calls the values that were read have taken the bytes up to the place of the reader, piece by piece, and no
call goes beyond them. The next read succeeds if and only if enough bytes are left. If not, it tells its place and what
it needs, and the reader serves any read that needs less. -/
theorem reads_tile_the_bytes (path : String) (bytes : List UInt8) (calls : List ReaderCall) :
    let start := Reader.ofBytes path bytes
    HasTaken path bytes (valuesRead start calls) (readerAfter start calls) ∧
      ReadsWhatIsLeft path bytes (readerAfter start calls) := by
  intro start
  have hstart : HasTaken path bytes [] start := ⟨standsIn_ofBytes path bytes, isSplitInto_nil⟩
  have hafter := hstart.after calls
  exact ⟨hafter, hafter.toStandsIn.readsWhatIsLeft⟩

/-- Behind the first of five bytes there are too few for a long word, and enough for a short one. -/
example : valuesRead (Reader.ofBytes "five.bin" [7, 1, 2, 0, 0]) [.read .byte, .read .word64, .read .word32] =
    [(.byte, .byte 7), (.word32, .word32 513)] := rfl

end TextSearch.Proofs
