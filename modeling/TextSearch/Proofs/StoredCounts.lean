import TextSearch.Proofs.BuiltPostings
import TextSearch.Proofs.RefusedRows
import TextSearch.Proofs.StoredSearches

/-!
# Counts in stored files

The files of an index say in four bytes how many documents and postings they hold. An index can hold one
document more than four bytes can count: then its columns say that there is none.
-/

namespace TextSearch.Proofs
open Storage RecordCodec

/-- The number of documents that the file of a column declares. -/
def declaredDocuments (file : List UInt8) : Nat := LittleEndian.decode (file.take 4)

/-- The number of postings that the record of a term declares, behind the fingerprint and the text. -/
def declaredPostings (term : Term) (bytes : List UInt8) : Nat :=
  LittleEndian.decode ((bytes.drop (8 + 4 + Utf8.size term.text)).take 4)

/-- The number of records that are read from the file of a column. -/
def recordsRead (path : String) : Kind → List UInt8 → Except SearchError Nat
  | .unsigned, file => (decodeColumn words path file).map fun column => column.2.size
  | .float, file => (decodeColumn singles path file).map fun column => column.2.size
  | .multi, file => (decodeColumn words path file).map fun column => column.2.size
  | .string, file => (decodeColumn texts path file).map fun column => column.2.size

/-! ### What is declared -/

lemma decode_take_encode (n : Nat) (rest : List UInt8) :
    LittleEndian.decode ((LittleEndian.encode 4 n ++ rest).take 4) = n % UInt32.size := by
  have htake : (LittleEndian.encode 4 n ++ rest).take 4 = LittleEndian.encode 4 n :=
    List.take_left' (LittleEndian.length_encode 4 n)
  rw [htake, LittleEndian.decode_encode]
  rfl

lemma declaredDocuments_encodeColumn {α : Type} (codec : RecordCodec α) (names : List String)
    (column : Column α) :
    declaredDocuments (encodeColumn codec names column) = column.size % UInt32.size := by
  unfold declaredDocuments encodeColumn
  rw [List.append_assoc, decode_take_encode]

lemma declaredDocuments_encodeAttributes (a : AttributeStore) (kind : Kind) :
    declaredDocuments (encodeAttributes a kind) = a.columnLength kind % UInt32.size := by
  cases kind <;> exact declaredDocuments_encodeColumn _ _ _

lemma declaredPostings_encodeTermRecord (record : Term × PostingList) :
    declaredPostings record.1 (encodeTermRecord record) = record.2.length % UInt32.size := by
  have hhead : (LittleEndian.word64 record.1.fingerprint ++
      LittleEndian.encode 4 (Utf8.size record.1.text) ++ Utf8.encode record.1.text).length =
        8 + 4 + Utf8.size record.1.text := by
    simp only [LittleEndian.word64, List.length_append, LittleEndian.length_encode, length_encode_text]
  unfold declaredPostings encodeTermRecord
  rw [List.append_assoc _ (LittleEndian.encode 4 record.2.length), List.drop_left' hhead,
    decode_take_encode]

/-! ### What is read -/

section Columns

variable {α : Type} {codec : RecordCodec α} {names : List String} {column : Column α}

/-- A full column is read as one without records, whatever follows its names. -/
lemma size_decodeColumn (hsize : column.size ≤ UInt32.size)
    (hnames : ∀ s ∈ names, Utf8.size s < UInt32.size)
    (hrecords : ∀ record ∈ column.toList,
      ReadsExactly codec.decode (codec.encode record) (capped record))
    (path : String) :
    (decodeColumn codec path (encodeColumn codec names column)).map (fun file => file.2.size) =
      .ok (column.size % UInt32.size) := by
  have hkept : ∀ s ∈ capped names, Utf8.size s < UInt32.size := fun s hs =>
    hnames s (List.mem_of_mem_take hs)
  rcases Nat.lt_or_eq_of_le hsize with hlt | hfull
  · rw [decodeColumn_encodeColumn hlt hkept hrecords, Except.map, Array.size_map, Nat.mod_eq_of_lt hlt]
  · have hzero : LittleEndian.encode 4 UInt32.size = LittleEndian.encode 4 0 := by decide
    have hbytes : encodeColumn codec names column =
        encodeColumn codec names #[] ++ column.toList.flatMap codec.encode := by
      unfold encodeColumn
      rw [hfull, hzero]
      simp
    have hempty : (#[] : Column α).size < UInt32.size := Nat.zero_lt_succ _
    rw [hbytes, decodeColumn_append hempty hkept (by simp), hfull, Nat.mod_self, Array.map_empty]
    rfl

end Columns

lemma recordsRead_encodeAttributes {a : AttributeStore} {count : Nat} (hcount : count ≤ UInt32.size)
    (hcolumns : ∀ kind, a.columnLength kind = count)
    (hnames : ∀ kind, ∀ name ∈ a.names kind, Utf8.size name < UInt32.size)
    (htexts : ∀ record ∈ a.string, ∀ s ∈ record, Utf8.size s < UInt32.size)
    (path : String) (kind : Kind) :
    recordsRead path kind (encodeAttributes a kind) = .ok (count % UInt32.size) := by
  obtain rfl := hcolumns kind
  cases kind with
  | unsigned => exact size_decodeColumn hcount (hnames _) (fun _ _ => reads_values reads_word32 _) path
  | float => exact size_decodeColumn hcount (hnames _) (fun _ _ => reads_values reads_single _) path
  | multi => exact size_decodeColumn hcount (hnames _) (fun _ _ => reads_values reads_word32 _) path
  | string =>
    refine size_decodeColumn hcount (hnames _) (fun record hrecord => reads_texts fun s hs => ?_) path
    exact htexts record (Array.mem_def.mpr hrecord) s (List.mem_of_mem_take hs)

/-- The files of an index declare as many documents as the builder took rows, and for each term as many
postings as its list has, but for 2^32: that is the most there can be, and it is declared as none. So many
records are read from the columns, if the lengths of their texts fit into their fields. -/
theorem declared_counts_are_cut_to_a_word (schema : Schema) (segmenter : Segmenter) (history : List Feed) :
    let taken := takenIn (Builder.new schema segmenter) history
    let index := (fed (Builder.new schema segmenter) history).finish
    taken.length ≤ UInt32.size ∧
    (∀ kind, declaredDocuments (encodeAttributes index.attributes kind) = taken.length % UInt32.size) ∧
    (∀ record ∈ index.postings.entries, record.2.length ≤ taken.length ∧
      declaredPostings record.1 (encodeTermRecord record) = record.2.length % UInt32.size) ∧
    ((∀ kind, ∀ name ∈ schema.attributes kind, Utf8.size name < UInt32.size) →
      (∀ record ∈ index.attributes.string, ∀ s ∈ record, Utf8.size s < UInt32.size) →
      ∀ path kind, recordsRead path kind (encodeAttributes index.attributes kind) =
        .ok (taken.length % UInt32.size)) := by
  intro taken index
  have hnumbered := numbered_history schema segmenter history
  have hcolumns : ∀ kind, index.attributes.columnLength kind = taken.length := hnumbered.wellBuilt.columns
  have hfew : taken.length ≤ UInt32.size := by
    have hrows := hnumbered.built.few
    rwa [List.length_map] at hrows
  refine ⟨hfew, fun kind => ?_,
    fun record hrecord => ⟨?_, declaredPostings_encodeTermRecord record⟩, ?_⟩
  · rw [declaredDocuments_encodeAttributes, hcolumns]
  · have hle : (postingsAfter schema segmenter (taken.map Prod.fst) record.1).length ≤
        (taken.map Prod.fst).zipIdx.length := List.length_filterMap_le _ _
    rwa [List.length_zipIdx, List.length_map, ← (hnumbered.built.record hrecord).1] at hle
  · intro hnames htexts
    have hstored : index.attributes.names = schema.attributes := hnumbered.wellBuilt.names
    exact recordsRead_encodeAttributes hfew hcolumns (hstored ▸ hnames) htexts

theorem declared_counts_are_cut_to_a_word_two_names :
    let rows : List Row := [[("name", "cat"), ("tags", "7")], [("name", "hen"), ("tags", "8, 9")]]
    let index := (fed (Builder.new taggedNames wholeName) (rows.map Feed.addRow)).finish
    (∀ kind, declaredDocuments (encodeAttributes index.attributes kind) = 2) ∧
    ∀ path kind, recordsRead path kind (encodeAttributes index.attributes kind) = .ok 2 := by
  intro rows index
  obtain ⟨-, hdeclared, -, hread⟩ :=
    declared_counts_are_cut_to_a_word taggedNames wholeName (rows.map Feed.addRow)
  have hstrings : index.attributes.string = #[["cat"], ["hen"]] := rfl
  refine ⟨hdeclared, hread (fun kind => by cases kind <;> decide) fun record hrecord => ?_⟩
  rw [hstrings] at hrecord
  revert record
  decide

/-! ### A full index -/

/-- If all rows have the columns, and there are no more of them than ordinals, then all are taken. -/
lemma accepted_eq_of_columns {schema : Schema} {rows : List Row}
    (hcolumns : ∀ row ∈ rows, lackedColumn? schema row = none) (hroom : rows.length ≤ UInt32.size)
    (segmenter : Segmenter) : accepted (Builder.new schema segmenter) rows = rows := by
  have hanswers : answersTo (Builder.new schema segmenter) rows =
      rows.zipIdx.map fun entry => answerAt entry.2 := by
    cases rows with
    | nil => rfl
    | cons row rows =>
      have hrow : lackedColumn? schema row = none := hcolumns row List.mem_cons_self
      rw [answersTo_new]
      simp [hrow]
  unfold accepted
  rw [hanswers, List.filter_eq_self.mpr, List.map_fst_zip (by simp)]
  intro entry hentry
  obtain ⟨place, hplace, hanswer⟩ := List.mem_map.mp (List.of_mem_zip hentry).2
  have hlt : place.2 < UInt32.size :=
    Nat.lt_of_lt_of_le (List.snd_lt_of_mem_zipIdx hplace) (by omega)
  rw [← hanswer, answerAt, if_pos hlt]
  rfl

section Full

variable {schema : Schema} {segmenter : Segmenter} {rows : List Row}

lemma built_accepted (h : accepted (Builder.new schema segmenter) rows = rows) :
    Built schema segmenter rows (fed (Builder.new schema segmenter) (rows.map Feed.addRow)) := by
  have hbuilt := (numbered_history schema segmenter (rows.map Feed.addRow)).built
  rwa [map_fst_takenIn, h] at hbuilt

/-- A token of every row has a posting for every row. -/
lemma length_postingsAfter_of_everywhere {text : String}
    (h : ∀ row ∈ rows, HasToken schema segmenter row text) :
    (postingsAfter schema segmenter rows (Term.ofText text)).length = rows.length := by
  have hall : ∀ entry ∈ rows.zipIdx, decide (HasToken schema segmenter entry.1 text) = true :=
    fun entry hentry => decide_eq_true (h _ (List.fst_mem_of_mem_zipIdx hentry))
  rw [postingsAfter_ofText, List.filter_eq_self.mpr hall, List.length_map, List.length_zipIdx]

/-- The index of as many rows as there are ordinals declares that it has no document, and no posting for a
token that all rows have. -/
theorem full_index_declares_none (hcolumns : ∀ row ∈ rows, lackedColumn? schema row = none)
    (hfull : rows.length = UInt32.size) :
    let index := (fed (Builder.new schema segmenter) (rows.map Feed.addRow)).finish
    accepted (Builder.new schema segmenter) rows = rows ∧
    (∀ kind, declaredDocuments (encodeAttributes index.attributes kind) = 0) ∧
    ((∀ kind, ∀ name ∈ schema.attributes kind, Utf8.size name < UInt32.size) →
      (∀ row ∈ rows, ∀ s ∈ (row.values schema).string, Utf8.size s < UInt32.size) →
      ∀ path kind, recordsRead path kind (encodeAttributes index.attributes kind) = .ok 0) ∧
    ∀ text, (∀ row ∈ rows, HasToken schema segmenter row text) →
      let postings := index.postings.items (Term.ofText text)
      postings.length = UInt32.size ∧
        declaredPostings (Term.ofText text) (encodeTermRecord (Term.ofText text, postings)) = 0 := by
  intro index
  have haccepted := accepted_eq_of_columns hcolumns hfull.le segmenter
  have hbuilt := built_accepted haccepted
  have hlength : ∀ kind, index.attributes.columnLength kind = UInt32.size := fun kind => by
    rw [← hfull, ← hbuilt.documentCount]
    exact hbuilt.consistent.columns kind
  refine ⟨haccepted, fun kind => ?_, fun hnames htexts path kind => ?_, fun text htext => ?_⟩
  · rw [declaredDocuments_encodeAttributes, hlength, Nat.mod_self]
  · have hattributes : index.attributes = columnsOf schema (rows.map (Row.values schema)) :=
      hbuilt.attributes
    rw [recordsRead_encodeAttributes le_rfl hlength ?_ ?_ path kind, Nat.mod_self]
    · rw [hattributes]
      exact hnames
    · rw [hattributes]
      intro record hrecord
      rw [columnsOf, List.mem_toArray, List.map_map] at hrecord
      obtain ⟨row, hrow, rfl⟩ := List.mem_map.mp hrecord
      exact htexts row hrow
  · intro postings
    have hpostings : postings = postingsAfter schema segmenter rows (Term.ofText text) := hbuilt.items _
    have hall : postings.length = UInt32.size := by
      rw [hpostings, length_postingsAfter_of_everywhere htext, hfull]
    refine ⟨hall, ?_⟩
    rw [declaredPostings_encodeTermRecord (Term.ofText text, postings), hall, Nat.mod_self]

end Full

theorem full_index_declares_none_cats :
    let rows : List Row := List.replicate UInt32.size [("name", "cat"), ("tags", "7")]
    let index := (fed (Builder.new taggedNames wholeName) (rows.map Feed.addRow)).finish
    let postings := index.postings.items (Term.ofText "cat")
    accepted (Builder.new taggedNames wholeName) rows = rows ∧ rows.length = UInt32.size ∧
    (∀ kind, declaredDocuments (encodeAttributes index.attributes kind) = 0) ∧
    (∀ path kind, recordsRead path kind (encodeAttributes index.attributes kind) = .ok 0) ∧
    postings.length = UInt32.size ∧
    declaredPostings (Term.ofText "cat") (encodeTermRecord (Term.ofText "cat", postings)) = 0 := by
  have hevery : ∀ {p : Row → Prop}, p [("name", "cat"), ("tags", "7")] →
      ∀ row ∈ List.replicate UInt32.size [("name", "cat"), ("tags", "7")], p row :=
    fun hp row hrow => List.eq_of_mem_replicate hrow ▸ hp
  have hcolumns : lackedColumn? taggedNames [("name", "cat"), ("tags", "7")] = none := by decide
  have htoken : HasToken taggedNames wholeName [("name", "cat"), ("tags", "7")] "cat" := by decide
  obtain ⟨haccepted, hdeclared, hread, hpostings⟩ :=
    full_index_declares_none (hevery hcolumns) List.length_replicate
  obtain ⟨hlength, hcount⟩ := hpostings "cat" (hevery htoken)
  refine ⟨haccepted, List.length_replicate, hdeclared, hread ?_ (hevery ?_), hlength, hcount⟩
  · intro kind
    cases kind <;> decide
  · decide

end TextSearch.Proofs
