import TextSearch.Proofs.AttributeFiles
import TextSearch.Proofs.ReaderForms

/-!
# Canonical attribute files

The bytes that are read as a column are those that are written of it, so a column has one file only. The
file tells where it ends: more bytes behind it change nothing, and fewer are not enough.
-/

namespace TextSearch.Proofs
open Storage RecordCodec

lemma takes_single : Takes Reader.single fun bytes x => bytes = LittleEndian.word32 x.bits := by
  intro r r' x h
  obtain ⟨⟨w, r₁⟩, hword, hr⟩ := bind_eq_ok_iff.mp h
  obtain ⟨rfl, rfl⟩ := Prod.mk.inj (Except.ok.inj hr)
  exact takes_word32 hword

lemma capped_eq_self {α : Type} {values : List α} {count : UInt8} (h : values.length = count.toNat) :
    capped values = values := by
  have hlt : count.toNat < 256 := count.toNat_lt
  apply List.take_of_length_le
  omega

lemma takes_values {α : Type} {encode : α → List UInt8} {decode : Read α}
    (h : Takes decode fun bytes x => bytes = encode x) :
    Takes (ofValues encode decode).decode fun bytes values =>
      bytes = (ofValues encode decode).encode values := by
  intro r r' values hr
  obtain ⟨⟨count, r₁⟩, hcount, hvalues⟩ := bind_eq_ok_iff.mp hr
  obtain ⟨_, rfl, hrest⟩ := takes_byte hcount
  obtain ⟨_, ⟨rfl, hlength⟩, hrest₁⟩ := takes_many_written h _ hvalues
  have hencode : (ofValues encode decode).encode values = count :: values.flatMap encode := by
    unfold ofValues
    dsimp only
    rw [capped_eq_self hlength, ofNat_eq_of_toNat_eq hlength]
  exact ⟨_, hencode.symm, by rw [hrest, hrest₁]; rfl⟩

/-- The zero byte is the one that is written behind a text. -/
lemma takes_terminatedText (length : UInt32) :
    Takes (terminatedText length) fun bytes s =>
      bytes = terminated s ∧ lengthBytes s = LittleEndian.word32 length := by
  intro r r' s h
  obtain ⟨⟨taken, r₁⟩, htaken, h⟩ := bind_eq_ok_iff.mp h
  obtain ⟨⟨last, r₂⟩, hlast, h⟩ := bind_eq_ok_iff.mp h
  dsimp only at h
  split at h
  · exact absurd h (by simp [throw, throwThe, MonadExceptOf.throw, bind, Except.bind])
  · rename_i hzero
    obtain ⟨text, htext, h⟩ := bind_eq_ok_iff.mp h
    obtain ⟨rfl, rfl⟩ := Prod.mk.inj (Except.ok.inj h)
    obtain ⟨_, ⟨rfl, hlength⟩, hrest⟩ := takes_bytes _ htaken
    obtain ⟨_, rfl, hrest₁⟩ := takes_byte hlast
    obtain rfl := text_eq_ok_iff.mp htext
    have hlast : last = 0 := by simpa using hzero
    rw [length_encode_text] at hlength
    refine ⟨terminated text, ⟨rfl, ?_⟩, ?_⟩
    · rw [lengthBytes, hlength]
      rfl
    · rw [hrest, hrest₁, hlast, terminated, List.append_assoc]

lemma takes_terminatedTexts (lengths : List UInt32) :
    Takes (terminatedTexts lengths) fun bytes values =>
      bytes = values.flatMap terminated ∧ values.map lengthBytes = lengths.map LittleEndian.word32 := by
  induction lengths with
  | nil =>
    intro r r' values h
    obtain ⟨rfl, rfl⟩ := Prod.mk.inj (Except.ok.inj h)
    exact ⟨[], ⟨rfl, rfl⟩, rfl⟩
  | cons length lengths ih =>
    intro r r' values h
    obtain ⟨⟨s, r₁⟩, hs, h⟩ := bind_eq_ok_iff.mp h
    obtain ⟨⟨rest, r₂⟩, hrest, h⟩ := bind_eq_ok_iff.mp h
    obtain ⟨rfl, rfl⟩ := Prod.mk.inj (Except.ok.inj h)
    obtain ⟨_, ⟨rfl, hlength⟩, hr⟩ := takes_terminatedText length hs
    obtain ⟨_, ⟨rfl, hlengths⟩, hr₁⟩ := ih hrest
    refine ⟨(s :: rest).flatMap terminated, ⟨rfl, ?_⟩, ?_⟩
    · rw [List.map_cons, List.map_cons, hlength, hlengths]
    · rw [hr, hr₁, List.flatMap_cons, List.append_assoc]

lemma takes_texts : Takes texts.decode fun bytes values => bytes = texts.encode values := by
  intro r r' values h
  obtain ⟨⟨count, r₁⟩, hcount, h⟩ := bind_eq_ok_iff.mp h
  obtain ⟨⟨lengths, r₂⟩, hlengths, hvalues⟩ := bind_eq_ok_iff.mp h
  obtain ⟨_, rfl, hrest⟩ := takes_byte hcount
  obtain ⟨_, ⟨rfl, hmany⟩, hrest₁⟩ := takes_many_written takes_word32 _ hlengths
  obtain ⟨_, ⟨rfl, heq⟩, hrest₂⟩ := takes_terminatedTexts _ hvalues
  have hlength : values.length = count.toNat := by
    have hsame := congrArg List.length heq
    rw [List.length_map, List.length_map] at hsame
    rw [hsame, hmany]
  have hencode : texts.encode values =
      count :: (lengths.flatMap LittleEndian.word32 ++ values.flatMap terminated) := by
    unfold texts
    dsimp only
    rw [capped_eq_self hlength, ofNat_eq_of_toNat_eq hlength, List.flatMap_def, heq, ← List.flatMap_def]
  exact ⟨_, hencode.symm, by rw [hrest, hrest₁, hrest₂]; simp⟩

lemma takes_record (e : Element) :
    Takes e.codec.decode fun bytes values => bytes = e.codec.encode values := by
  cases e with
  | word => exact takes_values takes_word32
  | single => exact takes_values takes_single
  | text => exact takes_texts

section Columns

variable {α : Type} {codec : RecordCodec α} {names : List String} {column : Column α}

lemma takes_column (h : Takes codec.decode fun bytes values => bytes = codec.encode values) :
    Takes (readColumn codec) fun bytes file => bytes = encodeColumn codec file.1 file.2 := by
  intro r r' file hr
  obtain ⟨⟨count, r₁⟩, hcount, hr⟩ := bind_eq_ok_iff.mp hr
  obtain ⟨⟨names, r₂⟩, hnames, hr⟩ := bind_eq_ok_iff.mp hr
  obtain ⟨⟨records, r₃⟩, hrecords, hr⟩ := bind_eq_ok_iff.mp hr
  obtain ⟨rfl, rfl⟩ := Prod.mk.inj (Except.ok.inj hr)
  obtain ⟨_, rfl, hrest⟩ := takes_word32 hcount
  obtain ⟨_, rfl, hrest₁⟩ := takes_texts hnames
  obtain ⟨_, ⟨rfl, hlength⟩, hrest₂⟩ := takes_many_written h _ hrecords
  refine ⟨_, rfl, ?_⟩
  dsimp only at hrest hrest₁ hrest₂ ⊢
  rw [hrest, hrest₁, hrest₂, encodeColumn, List.size_toArray, hlength, List.append_assoc,
    List.append_assoc]
  rfl

lemma encodeColumn_prefix_of_decodeColumn
    (h : Takes codec.decode fun bytes values => bytes = codec.encode values) {path : String}
    {bytes : List UInt8} (hdecode : decodeColumn codec path bytes = .ok (names, column)) :
    encodeColumn codec names column <+: bytes := by
  rw [decodeColumn_eq] at hdecode
  obtain ⟨⟨file, r⟩, hread, hfile⟩ := map_eq_ok_iff.mp hdecode
  obtain ⟨_, rfl, hrest⟩ := takes_column h hread
  rw [show file = (names, column) from hfile] at hrest
  exact ⟨r.rest, hrest.symm⟩

end Columns

/-- Bytes that are read as a column begin with the file of that column. The file of a column tells where it
ends: bytes behind it do not matter, and if some at its end are missing, that is what reading fails for. -/
theorem column_file_delimits_itself (e : Element) (path : String) :
    (∀ (bytes : List UInt8) (names : List String) (column : Column e.Value),
      decodeColumn e.codec path bytes = .ok (names, column) →
        encodeColumn e.codec names column <+: bytes) ∧
    ∀ (names : List String) (column : Column e.Value), column.size < UInt32.size →
      (∀ name ∈ names, Utf8.size name < UInt32.size) →
      (∀ record ∈ column, ∀ x ∈ record, e.Fits x) →
      let file := encodeColumn e.codec names column
      (∃ result, decodeColumn e.codec path file = .ok result ∧
        ∀ suffix, decodeColumn e.codec path (file ++ suffix) = .ok result) ∧
      ∀ cut, cut <+: file → cut ≠ file → ∃ offset needed,
        decodeColumn e.codec path cut = .error (.truncated path offset needed) ∧
          offset ≤ cut.length ∧ cut.length < offset + needed := by
  refine ⟨fun bytes names column => encodeColumn_prefix_of_decodeColumn (takes_record e), ?_⟩
  intro names column hcount hnames hvalues file
  have hkept : ∀ s ∈ capped names, Utf8.size s < UInt32.size := fun s hs =>
    hnames s (List.mem_of_mem_take hs)
  have hfits : ∀ record ∈ column.toList, ∀ x ∈ record, e.Fits x := fun record hrecord =>
    hvalues record (Array.mem_def.mpr hrecord)
  have hrecords : ∀ record ∈ column.toList,
      ReadsExactly e.codec.decode (e.codec.encode record) (capped record) :=
    fun record hrecord => reads_record e (hfits record hrecord)
  refine ⟨⟨_, decodeColumn_encodeColumn hcount hkept hrecords path,
    decodeColumn_append hcount hkept hrecords path⟩, ?_⟩
  intro cut hfront hne
  have hlt : cut.length < file.length := by
    apply Nat.lt_of_le_of_ne hfront.length_le
    intro hlength
    exact hne (hfront.eq_of_length hlength)
  have htake : cut = file.take cut.length := List.prefix_iff_eq_take.mp hfront
  have hread := (reads_column hcount hkept hrecords).noticesCut path 0 cut.length hlt
  have hcut := hread.bind fun read => .ok read.1
  rw [← htake, Nat.zero_add] at hcut
  rw [decodeColumn_eq]
  exact hcut

/-- Texts of several bytes and with a zero byte, with a byte behind the file and then without its end. -/
theorem column_file_delimits_itself_two_texts :
    let column : Column String := #[["a\x00b", "é"], []]
    let file := encodeColumn texts ["note"] column
    column.size < UInt32.size ∧ (∀ name ∈ ["note"], Utf8.size name < UInt32.size) ∧
      (∀ record ∈ column, ∀ s ∈ record, Element.text.Fits s) ∧
      decodeColumn texts "animals.lcs" (file ++ [7]) = .ok (["note"], column) ∧
      encodeColumn texts ["note"] column <+: file ++ [7] ∧
      (file.take 29 <+: file ∧ file.take 29 ≠ file) ∧
      ∃ offset needed, decodeColumn texts "animals.lcs" (file.take 29) =
        .error (.truncated "animals.lcs" offset needed) := by
  intro column file
  have hcount : column.size < UInt32.size := by decide
  have hnames : ∀ name ∈ ["note"], Utf8.size name < UInt32.size := by decide
  have hvalues : ∀ record ∈ column, ∀ s ∈ record, Element.text.Fits s := by
    simp only [column, List.mem_toArray]
    decide
  have hcut : file.take 29 <+: file ∧ file.take 29 ≠ file := ⟨List.take_prefix 29 file, by decide⟩
  obtain ⟨hfront, hfile⟩ := column_file_delimits_itself .text "animals.lcs"
  obtain ⟨⟨result, hdecode, hbehind⟩, hmissing⟩ := hfile ["note"] column hcount hnames hvalues
  have hkept : ∀ s ∈ capped ["note"], Utf8.size s < UInt32.size := hnames
  have hresult := decodeColumn_encodeColumn hcount hkept
    (fun record hrecord => reads_record .text (hvalues record (Array.mem_def.mpr hrecord)))
    "animals.lcs"
  have hwhole : column.map capped = column := by simp [column, capped]
  rw [hwhole] at hresult
  have hread : decodeColumn texts "animals.lcs" (file ++ [7]) = .ok (["note"], column) :=
    (hbehind [7]).trans (hdecode.symm.trans hresult)
  obtain ⟨offset, needed, htruncated, -⟩ := hmissing _ hcut.1 hcut.2
  exact ⟨hcount, hnames, hvalues, hread, hfront _ _ _ hread, hcut, offset, needed, htruncated⟩

end TextSearch.Proofs
