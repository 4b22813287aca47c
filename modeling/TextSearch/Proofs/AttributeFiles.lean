import Mathlib.Data.List.TakeDrop
import TextSearch.Proofs.ReaderRuns
import TextSearch.Storage.AttributeFile

/-!
# Attribute files

The file of a column gives back its names and its records, up to the values that a byte can count.
-/

namespace TextSearch.Proofs
open Storage RecordCodec

lemma length_capped {α : Type} (values : List α) :
    (UInt8.ofNat (capped values).length).toNat = (capped values).length :=
  UInt8.toNat_ofNat_of_lt' (Nat.lt_succ_of_le (List.length_take_le 255 values))

lemma reads_values {α : Type} {encode : α → List UInt8} {decode : Read α}
    (h : ∀ x, ReadsExactly decode (encode x) x) (values : List α) :
    ReadsExactly (ofValues encode decode).decode ((ofValues encode decode).encode values)
      (capped values) := by
  have hvalues := reads_many id fun x (_ : x ∈ capped values) => h x
  rw [List.map_id] at hvalues
  refine ReadsExactly.bind (reads_byte _) ?_
  dsimp only
  rw [length_capped]
  exact hvalues

/-- The length of a text as it is read. -/
def lengthOf (s : String) : UInt32 := UInt32.ofNat (Utf8.size s)

lemma reads_terminatedText {s : String} (h : Utf8.size s < UInt32.size) :
    ReadsExactly (terminatedText (lengthOf s)) (terminated s) s := by
  unfold terminatedText terminated lengthOf
  rw [toNat_ofNat_size h]
  refine (reads_bytes (Utf8.encode s)).bind ((reads_byte 0).finish fun _ r => ?_)
  simp [text_encode, pure, Except.pure]

lemma reads_terminatedTexts {texts : List String} (h : ∀ s ∈ texts, Utf8.size s < UInt32.size) :
    ReadsExactly (terminatedTexts (texts.map lengthOf)) (texts.flatMap terminated) texts := by
  induction texts with
  | nil => exact reads_nothing []
  | cons s texts ih =>
    have htexts := ih fun t ht => h t (List.mem_cons_of_mem _ ht)
    rw [List.flatMap_cons]
    exact (reads_terminatedText (h s List.mem_cons_self)).bind (htexts.finish fun _ _ => rfl)

lemma reads_texts {values : List String} (h : ∀ s ∈ capped values, Utf8.size s < UInt32.size) :
    ReadsExactly texts.decode (texts.encode values) (capped values) := by
  have hlengths := reads_many lengthOf fun s hs => reads_small (h s hs)
  refine ReadsExactly.bind (reads_byte _) ?_
  dsimp only
  rw [length_capped]
  exact hlengths.bind (reads_terminatedTexts h)

/-- Reads the names and the records of a column. -/
def readColumn {α : Type} (codec : RecordCodec α) : Read (List String × Column α) := fun r => do
  let (count, r) ← Reader.word32 r
  let (names, r) ← RecordCodec.texts.decode r
  let (records, r) ← Reader.many codec.decode count.toNat r
  return ((names, records.toArray), r)

lemma decodeColumn_eq {α : Type} (codec : RecordCodec α) (path : String) (bytes : List UInt8) :
    decodeColumn codec path bytes = (readColumn codec (Reader.ofBytes path bytes)).map Prod.fst := by
  unfold decodeColumn readColumn
  cases Reader.word32 (Reader.ofBytes path bytes) with
  | error e => rfl
  | ok count =>
    simp only [ok_bind]
    cases texts.decode count.2 with
    | error e => rfl
    | ok names =>
      simp only [ok_bind]
      cases Reader.many codec.decode count.1.toNat names.2 <;> rfl

section Columns

variable {α : Type} {codec : RecordCodec α} {names : List String} {column : Column α}

lemma reads_column (hcount : column.size < UInt32.size)
    (hnames : ∀ s ∈ capped names, Utf8.size s < UInt32.size)
    (hrecords : ∀ record ∈ column.toList,
      ReadsExactly codec.decode (codec.encode record) (capped record)) :
    ReadsExactly (readColumn codec) (encodeColumn codec names column)
      (capped names, column.map capped) := by
  have hsize : (UInt32.ofNat column.size).toNat = column.toList.length :=
    UInt32.toNat_ofNat_of_lt' hcount
  have hrecorded : (column.toList.map capped).toArray = column.map capped := by
    rw [← Array.toList_map, Array.toArray_toList]
  unfold encodeColumn
  rw [List.append_assoc, ← hrecorded]
  refine (reads_small hcount).bind ((reads_texts hnames).bind ?_)
  dsimp only
  rw [hsize]
  exact (reads_many capped hrecords).finish fun _ _ => rfl

/-- Whatever follows the records is not looked at. -/
lemma decodeColumn_append (hcount : column.size < UInt32.size)
    (hnames : ∀ s ∈ capped names, Utf8.size s < UInt32.size)
    (hrecords : ∀ record ∈ column.toList,
      ReadsExactly codec.decode (codec.encode record) (capped record))
    (path : String) (suffix : List UInt8) :
    decodeColumn codec path (encodeColumn codec names column ++ suffix) =
      .ok (capped names, column.map capped) := by
  have hread := (reads_column hcount hnames hrecords).reads path 0 suffix
  rw [decodeColumn_eq, Reader.ofBytes, hread]
  rfl

theorem decodeColumn_encodeColumn (hcount : column.size < UInt32.size)
    (hnames : ∀ s ∈ capped names, Utf8.size s < UInt32.size)
    (hrecords : ∀ record ∈ column.toList,
      ReadsExactly codec.decode (codec.encode record) (capped record))
    (path : String) :
    decodeColumn codec path (encodeColumn codec names column) =
      .ok (capped names, column.map capped) := by
  have hread := decodeColumn_append hcount hnames hrecords path []
  rwa [List.append_nil] at hread

end Columns

/-- What the values of a column can be. -/
inductive Element where
  | word
  | single
  | text
  deriving DecidableEq, Repr

namespace Element

abbrev Value : Element → Type
  | .word => UInt32
  | .single => Decimal.Single
  | .text => String

def codec : (e : Element) → RecordCodec e.Value
  | .word => words
  | .single => singles
  | .text => texts

/-- Whether the length of a value fits into four bytes, if it is stored. -/
def Fits : (e : Element) → e.Value → Prop
  | .word, _ => True
  | .single, _ => True
  | .text, s => Utf8.size s < UInt32.size

instance : (e : Element) → DecidablePred e.Fits
  | .word, _ => isTrue trivial
  | .single, _ => isTrue trivial
  | .text, s => inferInstanceAs (Decidable (Utf8.size s < UInt32.size))

end Element

lemma reads_record (e : Element) {values : List e.Value} (h : ∀ x ∈ values, e.Fits x) :
    ReadsExactly e.codec.decode (e.codec.encode values) (capped values) := by
  cases e with
  | word => exact reads_values reads_word32 values
  | single => exact reads_values reads_single values
  | text => exact reads_texts fun s hs => h s (List.mem_of_mem_take hs)

/-- Every record of a column is read back in its place, with the values that a byte can count, and so
are the names. Nothing is lost if and only if no record and not the names are more than that. -/
theorem column_read_back_up_to_caps (e : Element) {names : List String} {column : Column e.Value}
    (hcount : column.size < UInt32.size) (hnames : ∀ name ∈ names, Utf8.size name < UInt32.size)
    (hvalues : ∀ record ∈ column, ∀ x ∈ record, e.Fits x) (path : String) :
    decodeColumn e.codec path (encodeColumn e.codec names column) =
        .ok (names.take 255, column.map (List.take 255)) ∧
      (decodeColumn e.codec path (encodeColumn e.codec names column) = .ok (names, column) ↔
        names.length ≤ 255 ∧ ∀ record ∈ column, record.length ≤ 255) := by
  have hdecode : decodeColumn e.codec path (encodeColumn e.codec names column) =
      .ok (names.take 255, column.map (List.take 255)) :=
    decodeColumn_encodeColumn hcount (fun s hs => hnames s (List.mem_of_mem_take hs))
      (fun record hrecord => reads_record e (hvalues record (Array.mem_def.mpr hrecord))) path
  have hcolumn : column.map (List.take 255) = column ↔ ∀ record ∈ column, record.length ≤ 255 :=
    calc column.map (List.take 255) = column
        ↔ column.map (List.take 255) = column.map id := by rw [Array.map_id]
      _ ↔ ∀ record ∈ column, record.take 255 = record := Array.map_inj_left
      _ ↔ ∀ record ∈ column, record.length ≤ 255 :=
        forall₂_congr fun record _ => List.take_eq_self_iff record
  refine ⟨hdecode, ?_⟩
  rw [hdecode, Except.ok.injEq, Prod.mk.injEq, List.take_eq_self_iff, hcolumn]

/-- Texts with zero bytes in them, behind a record that is too long. -/
theorem column_read_back_long_record :
    let column : Column String := #[List.replicate 300 "x", ["a\x00b", "", "\x00"], []]
    column.size < UInt32.size ∧ (∀ name ∈ ["", "n\x00"], Utf8.size name < UInt32.size) ∧
      (∀ record ∈ column, ∀ s ∈ record, Element.text.Fits s) ∧
      decodeColumn texts "animals.lcs" (encodeColumn texts ["", "n\x00"] column) =
        .ok (["", "n\x00"], #[List.replicate 255 "x", ["a\x00b", "", "\x00"], []]) := by
  intro column
  have hcount : column.size < UInt32.size := by decide
  have hnames : ∀ name ∈ ["", "n\x00"], Utf8.size name < UInt32.size := by decide
  have hvalues : ∀ record ∈ column, ∀ s ∈ record, Element.text.Fits s := by
    have hlong : ∀ s ∈ List.replicate 300 "x", Utf8.size s < UInt32.size := by
      intro s hs
      rw [List.eq_of_mem_replicate hs]
      decide
    simp only [column, List.mem_toArray, List.forall_mem_cons, List.not_mem_nil, false_implies,
      implies_true, and_true]
    exact ⟨hlong, by decide⟩
  have hkept : column.map (List.take 255) = #[List.replicate 255 "x", ["a\x00b", "", "\x00"], []] := by
    simp only [column, List.map_toArray, List.map_cons, List.take_replicate]
    rfl
  have hdecode := (column_read_back_up_to_caps .text hcount hnames hvalues "animals.lcs").1
  rw [hkept] at hdecode
  exact ⟨hcount, hnames, hvalues, hdecode⟩

end TextSearch.Proofs
