import TextSearch.Proofs.CanonicalColumns
import TextSearch.Proofs.IndexGrammar

/-!
# Untrusted bytes

Whatever bytes stand in a file, and whatever counts they declare, reading them fails only for a reason
that holds of them, takes no more steps than there are bytes, and gives no more than they have room for.
-/

namespace TextSearch.Proofs
open Storage RecordCodec

/-- What can rightly be said of a file of `size` bytes: some of them are wrong, or from a place in it on
more were needed than it has. -/
inductive Truthful (path : String) (size : Nat) : SearchError → Prop where
  | corrupt (detail : String) : Truthful path size (.corruptRecord detail)
  | truncated {offset needed : Nat} (hle : offset ≤ size) (hlt : size < offset + needed) :
      Truthful path size (.truncated path offset needed)

lemma Truthful.isLoadError {path : String} {size : Nat} {e : SearchError} (h : Truthful path size e) :
    e.isLoadError = true := by
  cases h <;> rfl

/-- The place where the bytes of a reader end. -/
def fileEnd (r : Reader) : Nat := r.offset + r.rest.length

/-- A read that goes on in the same file, `least` bytes further at least, and else fails for a reason that
holds. -/
structure Careful {α : Type} (least : Nat) (read : Read α) : Prop where
  goesOn : ∀ {r r' : Reader} {x : α}, read r = .ok (x, r') →
    r'.path = r.path ∧ fileEnd r' = fileEnd r ∧ r'.rest.length + least ≤ r.rest.length
  fails : ∀ {r : Reader} {e : SearchError}, read r = .error e → Truthful r.path (fileEnd r) e

section Steps

variable {α β : Type} {read : Read α} {least : Nat}

/-- Reads one value and goes on behind it. What is done then may tell where the value was. -/
lemma Careful.bind {next : Reader → α × Reader → Except SearchError (β × Reader)}
    (h : Careful least read) (more : Nat) (h' : ∀ r x, Careful more fun r' => next r (x, r')) :
    Careful (least + more) fun r => read r >>= next r where
  goesOn := by
    intro r r' y hr
    obtain ⟨⟨x, r₁⟩, hx, hy⟩ := bind_eq_ok_iff.mp hr
    obtain ⟨hpath, hend, hrest⟩ := h.goesOn hx
    obtain ⟨hpath', hend', hrest'⟩ := (h' r x).goesOn hy
    exact ⟨hpath'.trans hpath, hend'.trans hend, by omega⟩
  fails := by
    intro r e hr
    rcases bind_eq_error_iff.mp hr with hx | ⟨⟨x, r₁⟩, hx, hy⟩
    · exact h.fails hx
    · obtain ⟨hpath, hend, -⟩ := h.goesOn hx
      have hfails := (h' r x).fails hy
      rwa [hpath, hend] at hfails

lemma Careful.weaken {fewer : Nat} (h : Careful least read) (hle : fewer ≤ least) :
    Careful fewer read where
  goesOn hr :=
    have ⟨hpath, hend, hrest⟩ := h.goesOn hr
    ⟨hpath, hend, (Nat.add_le_add_left hle _).trans hrest⟩
  fails := h.fails

lemma careful_value (y : β) : Careful 0 fun r => .ok (y, r) where
  goesOn h := by
    obtain ⟨-, rfl⟩ := Prod.mk.inj (Except.ok.inj h)
    exact ⟨rfl, rfl, Nat.le_refl _⟩
  fails h := absurd h (by simp)

/-- Reads one last value. -/
lemma Careful.map (h : Careful least read) (f : α → β) :
    Careful least fun r => read r >>= fun x => .ok (f x.1, x.2) :=
  h.bind 0 fun _ x => careful_value (f x)

lemma careful_corrupt (detail : Reader → String) :
    Careful least fun r => (.error (.corruptRecord (detail r)) : Except SearchError (β × Reader)) where
  goesOn h := absurd h (by simp)
  fails h := by
    obtain rfl := Except.error.inj h
    exact .corrupt _

lemma careful_text {next : String → Read β} (bytes : List UInt8) (h : ∀ s, Careful least (next s)) :
    Careful least fun r => r.text bytes >>= fun s => next s r := by
  unfold Reader.text
  cases Utf8.decode bytes with
  | ok s => exact h s
  | error fault =>
    exact careful_corrupt fun r => s!"invalid UTF-8 in {r.path} before offset {r.offset}: {fault.message}"

lemma careful_many (h : Careful least read) (n : Nat) : Careful (n * least) (Reader.many read n) := by
  induction n with
  | zero =>
    rw [Nat.zero_mul]
    exact careful_value []
  | succ n ih =>
    rw [Nat.succ_mul, Nat.add_comm]
    exact h.bind _ fun _ x => ih.map fun xs => x :: xs

end Steps

/-! ### The parts of a file -/

lemma careful_bytes (n : Nat) : Careful n (Reader.bytes n) where
  goesOn := by
    intro r r' x h
    obtain ⟨hrest, hlength, hpath, hoffset⟩ := Reader.bytes_eq_ok_iff.mp h
    have hsize := congrArg List.length hrest
    rw [List.length_append, hlength] at hsize
    refine ⟨hpath, ?_, by omega⟩
    rw [fileEnd, fileEnd, hoffset, hsize, Nat.add_assoc]
  fails := by
    intro r e h
    obtain ⟨hfew, rfl⟩ := Reader.bytes_eq_error_iff.mp h
    exact .truncated (Nat.le_add_right _ _) (Nat.add_lt_add_left hfew _)

lemma careful_number (width : Nat) : Careful width (Reader.number width) :=
  (careful_bytes width).map LittleEndian.decode

lemma careful_byte : Careful 1 Reader.byte := (careful_number 1).map UInt8.ofNat

lemma careful_word32 : Careful 4 Reader.word32 := (careful_number 4).map UInt32.ofNat

lemma careful_word64 : Careful 8 Reader.word64 := (careful_number 8).map UInt64.ofNat

lemma careful_single : Careful 4 Reader.single := careful_word32.map Decimal.Single.mk

lemma careful_values {α : Type} {encode : α → List UInt8} {decode : Read α} {least : Nat}
    (h : Careful least decode) : Careful 1 (ofValues encode decode).decode :=
  careful_byte.bind 0 fun _ count => (careful_many h count.toNat).weaken (Nat.zero_le _)

lemma careful_terminatedText (length : UInt32) : Careful (length.toNat + 1) (terminatedText length) := by
  refine (careful_bytes length.toNat).bind 1 fun _ taken => careful_byte.bind 0 fun r last => ?_
  by_cases hzero : last = 0
  · simp only [hzero]
    exact careful_text taken fun s => careful_value s
  · simp only [ne_eq, hzero, not_false_eq_true, if_true]
    exact careful_corrupt _

lemma careful_terminatedTexts (lengths : List UInt32) : Careful 0 (terminatedTexts lengths) := by
  induction lengths with
  | nil => exact careful_value []
  | cons length lengths ih =>
    have htext := (careful_terminatedText length).weaken (Nat.zero_le _)
    exact htext.bind 0 fun _ s => ih.map fun texts => s :: texts

lemma careful_texts : Careful 1 texts.decode :=
  careful_byte.bind 0 fun _ count =>
    ((careful_many careful_word32 count.toNat).weaken (Nat.zero_le _)).bind 0 fun _ lengths =>
      careful_terminatedTexts lengths

lemma careful_record (e : Element) : Careful 1 e.codec.decode := by
  cases e with
  | word => exact careful_values careful_word32
  | single => exact careful_values careful_single
  | text => exact careful_texts

lemma careful_posting (term : Term) : Careful 5 (readPosting term) := by
  refine careful_word32.bind 1 fun _ ordinal => careful_byte.bind 0 fun _ size => ?_
  refine Careful.bind ((careful_bytes size.toNat).weaken (Nat.zero_le _)) 0 fun _ payload => ?_
  cases hpayload : Posting.ofPayload ordinal payload with
  | ok posting =>
    simp only [hpayload]
    exact careful_value posting
  | error fault =>
    simp only [hpayload]
    exact careful_corrupt _

/-! ### Steps of the loops -/

/-- How many of the values that are announced are begun: all of them, or those up to the first one that
cannot be read. -/
def begun {α : Type} (read : Read α) : Nat → Reader → Nat
  | 0, _ => 0
  | n + 1, r =>
    match read r with
    | .ok (_, r) => begun read n r + 1
    | .error _ => 1

lemma begun_of_ok {α : Type} {read : Read α} {n : Nat} {r r' : Reader} {xs : List α}
    (h : Reader.many read n r = .ok (xs, r')) : begun read n r = n := by
  induction n generalizing r xs with
  | zero => rfl
  | succ n ih =>
    obtain ⟨⟨x, r₁⟩, hx, h⟩ := bind_eq_ok_iff.mp h
    obtain ⟨⟨rest, r₂⟩, hrest, h⟩ := bind_eq_ok_iff.mp h
    obtain ⟨rfl, rfl⟩ := Prod.mk.inj (Except.ok.inj h)
    rw [begun, hx]
    dsimp only
    rw [ih hrest]

/-- Every value that is read takes a byte at least, so the bytes that are left end the loop. -/
lemma begun_le {α : Type} {read : Read α} {least : Nat} (h : Careful least read) (hpos : 0 < least)
    (n : Nat) (r : Reader) : begun read n r ≤ r.rest.length + 1 := by
  induction n generalizing r with
  | zero => exact Nat.zero_le _
  | succ n ih =>
    rw [begun]
    cases hx : read r with
    | error e => exact Nat.le_add_left 1 _
    | ok result =>
      obtain ⟨-, -, hrest⟩ := h.goesOn hx
      have hle := ih result.2
      dsimp only
      omega

/-- Reads what a column file says before its records. -/
def readColumnHead : Read (UInt32 × List String) := fun r => do
  let (count, r) ← Reader.word32 r
  let (names, r) ← RecordCodec.texts.decode r
  return ((count, names), r)

lemma readColumn_eq {α : Type} (codec : RecordCodec α) (r : Reader) :
    readColumn codec r = readColumnHead r >>= fun head =>
      Reader.many codec.decode head.1.1.toNat head.2 >>= fun records =>
        .ok ((head.1.2, records.1.toArray), records.2) := by
  unfold readColumn readColumnHead
  cases Reader.word32 r with
  | error e => rfl
  | ok count =>
    simp only [ok_bind]
    cases texts.decode count.2 <;> rfl

lemma careful_columnHead : Careful 5 readColumnHead :=
  careful_word32.bind 1 fun _ count => careful_texts.map fun names => (count, names)

/-- How many records of a column file are begun. -/
def recordsBegun {α : Type} (codec : RecordCodec α) (path : String) (bytes : List UInt8) : Nat :=
  match readColumnHead (Reader.ofBytes path bytes) with
  | .ok (head, r) => begun codec.decode head.1.toNat r
  | .error _ => 0

/-- Reads what a record of a term says before its postings. -/
def readTermHead : Read (Term × UInt32) := fun r => do
  let (fingerprint, r) ← Reader.word64 r
  let (length, r) ← Reader.word32 r
  let (bytes, r) ← Reader.bytes length.toNat r
  let text ← r.text bytes
  let (count, r) ← Reader.word32 r
  return ((⟨fingerprint, text⟩, count), r)

lemma readTermRecord_eq (r : Reader) :
    readTermRecord r = readTermHead r >>= fun head =>
      Reader.many (readPosting head.1.1) head.1.2.toNat head.2 >>= fun postings =>
        .ok ((head.1.1, postings.1), postings.2) := by
  unfold readTermRecord readTermHead
  cases Reader.word64 r with
  | error e => rfl
  | ok fingerprint =>
    simp only [ok_bind]
    cases Reader.word32 fingerprint.2 with
    | error e => rfl
    | ok length =>
      simp only [ok_bind]
      cases Reader.bytes length.1.toNat length.2 with
      | error e => rfl
      | ok bytes =>
        simp only [ok_bind]
        cases bytes.2.text bytes.1 with
        | error e => rfl
        | ok text =>
          simp only [ok_bind]
          cases Reader.word32 bytes.2 <;> rfl

lemma careful_termHead : Careful 16 readTermHead := by
  refine careful_word64.bind 8 fun _ fingerprint => careful_word32.bind 4 fun _ length => ?_
  refine Careful.bind ((careful_bytes length.toNat).weaken (Nat.zero_le _)) 4 fun _ bytes => ?_
  exact careful_text bytes fun text =>
    careful_word32.map fun count => ((⟨fingerprint, text⟩, count) : Term × UInt32)

/-- How many postings of a record are begun. -/
def postingsBegun (r : Reader) : Nat :=
  match readTermHead r with
  | .ok (head, r) => begun (readPosting head.1) head.2.toNat r
  | .error _ => 0

/-- How many records of an index file are begun, and postings in them. -/
def partsBegun : Nat → Reader → Nat
  | 0, _ => 0
  | fuel + 1, r =>
    if r.isEmpty then 0
    else
      match readTermRecord r with
      | .ok (_, r') => postingsBegun r + partsBegun fuel r' + 1
      | .error _ => postingsBegun r + 1

/-- The bytes in front of a record's postings leave room for a pass that fails. -/
lemma postingsBegun_lt {r : Reader} (h : r.isEmpty = false) : postingsBegun r < r.rest.length := by
  have hpos : 0 < r.rest.length := List.length_pos_iff.mpr (List.isEmpty_eq_false_iff.mp h)
  unfold postingsBegun
  cases hhead : readTermHead r with
  | error e => exact hpos
  | ok head =>
    obtain ⟨-, -, hrest⟩ := careful_termHead.goesOn hhead
    have hle := begun_le (careful_posting head.1.1) (by decide) head.1.2.toNat head.2
    dsimp only
    omega

lemma postingsBegun_of_ok {r r' : Reader} {record : Term × PostingList}
    (h : readTermRecord r = .ok (record, r')) : r'.rest.length + postingsBegun r + 1 ≤ r.rest.length := by
  rw [readTermRecord_eq] at h
  obtain ⟨⟨⟨term, count⟩, r₁⟩, hhead, h⟩ := bind_eq_ok_iff.mp h
  obtain ⟨⟨postings, r₂⟩, hpostings, h⟩ := bind_eq_ok_iff.mp h
  obtain ⟨rfl, rfl⟩ := Prod.mk.inj (Except.ok.inj h)
  obtain ⟨-, -, hrest⟩ := careful_termHead.goesOn hhead
  obtain ⟨-, -, hrest'⟩ := (careful_many (careful_posting term) count.toNat).goesOn hpostings
  rw [postingsBegun, hhead]
  dsimp only at hpostings hrest' ⊢
  rw [begun_of_ok hpostings]
  omega

lemma partsBegun_le (fuel : Nat) (r : Reader) : partsBegun fuel r ≤ r.rest.length := by
  induction fuel generalizing r with
  | zero => exact Nat.zero_le _
  | succ fuel ih =>
    rw [partsBegun]
    cases hempty : r.isEmpty with
    | true => exact Nat.zero_le _
    | false =>
      rw [if_neg Bool.false_ne_true]
      cases hrecord : readTermRecord r with
      | error e => exact postingsBegun_lt hempty
      | ok result =>
        have hrest := postingsBegun_of_ok hrecord
        have hle := ih result.2
        dsimp only
        omega

/-! ### Whole files -/

lemma careful_termRecord : Careful 16 readTermRecord := by
  rw [funext readTermRecord_eq]
  refine careful_termHead.bind 0 fun _ head => ?_
  exact ((careful_many (careful_posting head.1) head.2.toNat).weaken (Nat.zero_le _)).map fun ps =>
    (head.1, ps)

lemma careful_column (e : Element) : Careful 5 (readColumn e.codec) := by
  rw [funext (readColumn_eq e.codec)]
  refine careful_columnHead.bind 0 fun _ head => ?_
  exact ((careful_many (careful_record e) head.1.toNat).weaken (Nat.zero_le _)).map fun records =>
    (head.2, records.toArray)

lemma truthful_readRecords {fuel : Nat} {r : Reader} {e : SearchError}
    (h : readRecords fuel r = .error e) : Truthful r.path (fileEnd r) e := by
  induction fuel generalizing r with
  | zero => exact absurd h (by simp [readRecords])
  | succ fuel ih =>
    rw [readRecords] at h
    split at h
    · exact absurd h (by simp)
    · rcases bind_eq_error_iff.mp h with hrecord | ⟨⟨record, r₁⟩, hrecord, h⟩
      · exact careful_termRecord.fails hrecord
      · rcases bind_eq_error_iff.mp h with hrest | ⟨records, -, h⟩
        · obtain ⟨hpath, hend, -⟩ := careful_termRecord.goesOn hrecord
          have htruth := ih hrest
          rwa [hpath, hend] at htruth
        · exact absurd h (by simp [pure, Except.pure])

lemma readRecords_of_isEmpty {r : Reader} (h : r.isEmpty = true) (fuel : Nat) :
    readRecords fuel r = .ok [] := by
  cases fuel with
  | zero => rfl
  | succ fuel => rw [readRecords, if_pos h]

/-- Fuel for every byte that is left does not end the loop. -/
lemma readRecords_fuel {fuel other : Nat} {r : Reader} (h : r.rest.length ≤ fuel)
    (h' : r.rest.length ≤ other) : readRecords fuel r = readRecords other r := by
  induction fuel generalizing other r with
  | zero =>
    have hempty : r.isEmpty = true := by
      rw [Reader.isEmpty, List.isEmpty_iff, ← List.length_eq_zero_iff]
      exact Nat.le_zero.mp h
    rw [readRecords_of_isEmpty hempty, readRecords_of_isEmpty hempty]
  | succ fuel ih =>
    cases hempty : r.isEmpty with
    | true => rw [readRecords_of_isEmpty hempty, readRecords_of_isEmpty hempty]
    | false =>
      have hpos : 0 < r.rest.length := List.length_pos_iff.mpr (List.isEmpty_eq_false_iff.mp hempty)
      obtain ⟨other, rfl⟩ : ∃ n, other = n + 1 := ⟨other - 1, by omega⟩
      rw [readRecords, readRecords, hempty, if_neg Bool.false_ne_true, if_neg Bool.false_ne_true]
      cases hrecord : readTermRecord r with
      | error e => rfl
      | ok result =>
        obtain ⟨-, -, hrest⟩ := careful_termRecord.goesOn hrecord
        have hsame : readRecords fuel result.2 = readRecords other result.2 := ih (by omega) (by omega)
        rw [ok_bind, ok_bind]
        dsimp only
        rw [hsame]

lemma length_encodeColumn_ge (e : Element) (names : List String) (column : Column e.Value) :
    5 + column.size ≤ (encodeColumn e.codec names column).length := by
  have hrecord : ∀ values ∈ column.toList, 1 ≤ (e.codec.encode values).length := by
    intro values _
    cases e <;> exact Nat.le_add_left 1 _
  have hrecords := mul_length_le_flatMap hrecord
  have hnames : 1 ≤ (texts.encode names).length := Nat.le_add_left 1 _
  rw [Array.length_toList] at hrecords
  simp only [encodeColumn, List.length_append, LittleEndian.length_encode]
  omega

lemma size_gathered_le (records : List (Term × PostingList)) :
    16 * (gathered records).size + 5 * (gathered records).itemCount ≤ (encodeRecords records).length := by
  -- from the back, as the record that is joined last is the last of the file
  induction records using List.reverseRecOn with
  | nil =>
    have hsize : (gathered []).size = 0 := rfl
    have hcount : (gathered []).itemCount = 0 := rfl
    rw [hsize, hcount]
    exact Nat.zero_le _
  | append_singleton records record ih =>
    have hadded : gathered (records ++ [record]) = (gathered records).addAll record.1 record.2 :=
      List.foldl_append
    have hbytes : encodeRecords (records ++ [record]) =
        encodeRecords records ++ encodeTermRecord record := by
      rw [encodeRecords, List.flatMap_append, List.flatMap_singleton]
      rfl
    -- a term that is known already adds its postings only
    have hsize := size_addAll_le (gathered records) record.1 record.2
    have hrecord := length_encodeTermRecord_ge record
    rw [hadded, hbytes, List.length_append, itemCount_addAll]
    omega

/-- Bytes that are no column and no index are refused for what is wrong with them: an error of loading
that names bytes that are wrong, or a place in the file from which on more bytes were needed than there
are. What is read of other bytes had room in them, and the loops over the records and over their postings
end with the bytes, whatever counts these declare. -/
theorem reading_is_bounded_by_the_bytes (path : String) (bytes : List UInt8) :
    (∀ (e : Element) error, decodeColumn e.codec path bytes = .error error →
      error.isLoadError = true ∧ Truthful path bytes.length error) ∧
    (∀ error, decodeIndex path bytes = .error error →
      error.isLoadError = true ∧ Truthful path bytes.length error) ∧
    (∀ (e : Element) names column, decodeColumn e.codec path bytes = .ok (names, column) →
      5 + column.size ≤ bytes.length) ∧
    (∀ index, decodeIndex path bytes = .ok index →
      16 * index.size + 5 * index.itemCount ≤ bytes.length) ∧
    (∀ e : Element, recordsBegun e.codec path bytes ≤ bytes.length) ∧
    ∀ fuel, bytes.length ≤ fuel →
      readRecords fuel (Reader.ofBytes path bytes) = readRecords bytes.length (Reader.ofBytes path bytes) ∧
        partsBegun fuel (Reader.ofBytes path bytes) ≤ bytes.length := by
  have hend : fileEnd (Reader.ofBytes path bytes) = bytes.length := Nat.zero_add _
  refine ⟨?_, ?_, ?_, ?_, ?_,
    fun fuel hfuel => ⟨readRecords_fuel hfuel (Nat.le_refl _), partsBegun_le fuel _⟩⟩
  · intro e error herror
    rw [decodeColumn_eq] at herror
    have htruth := (careful_column e).fails (map_eq_error_iff.mp herror)
    rw [hend] at htruth
    exact ⟨htruth.isLoadError, htruth⟩
  · intro error herror
    rcases bind_eq_error_iff.mp herror with hrecords | ⟨records, -, h⟩
    · have htruth := truthful_readRecords hrecords
      rw [hend] at htruth
      exact ⟨htruth.isLoadError, htruth⟩
    · exact absurd h (by simp [pure, Except.pure])
  · intro e names column hcolumn
    have hfront := encodeColumn_prefix_of_decodeColumn (takes_record e) hcolumn
    exact (length_encodeColumn_ge e names column).trans hfront.length_le
  · intro index hindex
    obtain ⟨split, hsplit, rfl⟩ := decodeIndex_eq_ok_iff.mp hindex
    obtain ⟨records, -, rfl, rfl⟩ := isSplit_records_iff.mp hsplit
    rw [map_snd_written]
    exact size_gathered_le records
  · intro e
    unfold recordsBegun
    cases hhead : readColumnHead (Reader.ofBytes path bytes) with
    | error e => exact Nat.zero_le _
    | ok head =>
      obtain ⟨-, -, hrest⟩ := careful_columnHead.goesOn hhead
      have hle := begun_le (careful_record e) Nat.zero_lt_one head.1.1.toNat head.2
      change head.2.rest.length + 5 ≤ bytes.length at hrest
      dsimp only
      omega

/-- A column that announces 2^32 - 1 records, a term that announces a text of as many bytes, and a file of
each kind without a byte to spare. -/
theorem reading_is_bounded_by_the_bytes_forged_counts :
    let forged : List UInt8 := [255, 255, 255, 255, 0, 0, 0]
    let forgedTerm : List UInt8 := [7, 0, 0, 0, 0, 0, 0, 0, 255, 255, 255, 255, 65]
    let column : List UInt8 := [1, 0, 0, 0, 0, 0]
    let term : List UInt8 := [7, 0, 0, 0, 0, 0, 0, 0, 0, 0, 0, 0, 1, 0, 0, 0, 5, 0, 0, 0, 0]
    (decodeColumn words "animals.lcu" forged = .error (.truncated "animals.lcu" 7 1) ∧
      Truthful "animals.lcu" 7 (.truncated "animals.lcu" 7 1) ∧
      recordsBegun words "animals.lcu" forged ≤ 7) ∧
    (decodeIndex "animals.lci" forgedTerm = .error (.truncated "animals.lci" 12 4294967295) ∧
      Truthful "animals.lci" 13 (.truncated "animals.lci" 12 4294967295) ∧
      partsBegun 13 (Reader.ofBytes "animals.lci" forgedTerm) ≤ 13) ∧
    (decodeColumn words "animals.lcu" column = .ok ([], #[[]]) ∧ 5 + (#[[]] : Column UInt32).size ≤ 6) ∧
    ∃ index, decodeIndex "animals.lci" term = .ok index ∧ 16 * index.size + 5 * index.itemCount ≤ 21 := by
  intro forged forgedTerm column term
  have hforged : decodeColumn words "animals.lcu" forged = .error (.truncated "animals.lcu" 7 1) := rfl
  have hforgedTerm : decodeIndex "animals.lci" forgedTerm =
      .error (.truncated "animals.lci" 12 4294967295) := rfl
  have hcolumn : decodeColumn words "animals.lcu" column = .ok ([], #[[]]) := rfl
  obtain ⟨index, hindex⟩ : ∃ index, decodeIndex "animals.lci" term = .ok index := by
    let record : Term × PostingList := (⟨7, ""⟩, [⟨5, []⟩])
    have hpayload : ∀ p ∈ record.2, payloadFault? p.payload = none := by
      simp [record, payloadFault?, incompleteHit?]
    have hfits : FitsRecord record := ⟨by decide, by decide, hpayload⟩
    have hbytes : term = encodeRecords [record] := by decide
    have hsplit := isSplit_records_iff.mpr ⟨[record], List.forall_mem_singleton.mpr hfits, hbytes, rfl⟩
    exact ⟨_, decodeIndex_eq_ok_iff.mpr ⟨_, hsplit, rfl⟩⟩
  obtain ⟨hfails, -, -, -, hbegun, -⟩ := reading_is_bounded_by_the_bytes "animals.lcu" forged
  obtain ⟨-, hfailsTerm, -, -, -, hfuel⟩ := reading_is_bounded_by_the_bytes "animals.lci" forgedTerm
  obtain ⟨-, -, hroom, -⟩ := reading_is_bounded_by_the_bytes "animals.lcu" column
  obtain ⟨-, -, -, hroomTerm, -⟩ := reading_is_bounded_by_the_bytes "animals.lci" term
  exact ⟨⟨hforged, (hfails .word _ hforged).2, hbegun .word⟩,
    ⟨hforgedTerm, (hfailsTerm _ hforgedTerm).2, (hfuel 13 (Nat.le_refl _)).2⟩,
    ⟨hcolumn, hroom .word _ _ hcolumn⟩, index, hindex, hroomTerm index hindex⟩

end TextSearch.Proofs
