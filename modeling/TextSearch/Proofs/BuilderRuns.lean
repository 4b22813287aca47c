import TextSearch.Proofs.BuilderSteps
import TextSearch.Proofs.DocumentPostings
import TextSearch.Proofs.KeptWords
import TextSearch.Proofs.LoadedIndexes

/-!
# Runs of a builder

After some rows the columns hold the values of each of them, and the posting list of a term holds one
posting for each row that has the term, in the order of the rows. An index with these lists can always
be searched.
-/

namespace TextSearch.Proofs

variable {schema : Schema} {segmenter : Segmenter}

def columnsOf (schema : Schema) (values : List Values) : AttributeStore where
  names := schema.attributes
  unsigned := (values.map Values.unsigned).toArray
  float := (values.map Values.float).toArray
  multi := (values.map Values.multi).toArray
  string := (values.map Values.string).toArray

lemma push_columnsOf (schema : Schema) (values : List Values) (v : Values) :
    ((columnsOf schema values).push v).1 = columnsOf schema (values ++ [v]) := by
  simp [columnsOf, AttributeStore.push, Column.add]

@[simp] lemma documentCount_columnsOf (schema : Schema) (values : List Values) :
    (columnsOf schema values).documentCount = values.length := by
  simp [columnsOf, AttributeStore.documentCount]

/-- The posting list of a term after some rows. -/
def postingsAfter (schema : Schema) (segmenter : Segmenter) (rows : List Row) (term : Term) :
    PostingList :=
  rows.zipIdx.filterMap fun entry =>
    posting? term (UInt32.ofNat entry.2) (entry.1.fieldTokens schema segmenter)

/-- A builder that has taken some rows. -/
structure Built (schema : Schema) (segmenter : Segmenter) (rows : List Row) (b : Builder) : Prop where
  schema_eq : b.schema = schema
  segmenter_eq : b.segmenter = segmenter
  few : rows.length ≤ UInt32.size
  attributes : b.index.attributes = columnsOf schema (rows.map (Row.values schema))
  items? : ∀ term, b.index.postings.items? term =
    if postingsAfter schema segmenter rows term = [] then none
    else some (postingsAfter schema segmenter rows term)

lemma Built.items {rows : List Row} {b : Builder} (h : Built schema segmenter rows b) (term : Term) :
    b.index.postings.items term = postingsAfter schema segmenter rows term := by
  rw [Multimap.items, h.items? term]
  by_cases hnil : postingsAfter schema segmenter rows term = []
  · rw [if_pos hnil, hnil]
    rfl
  · rw [if_neg hnil]
    rfl

lemma Built.documentCount {rows : List Row} {b : Builder} (h : Built schema segmenter rows b) :
    b.documentCount = rows.length := by
  unfold Builder.documentCount Index.documentCount
  rw [h.attributes, documentCount_columnsOf, List.length_map]

lemma built_new (schema : Schema) (segmenter : Segmenter) :
    Built schema segmenter [] (Builder.new schema segmenter) where
  schema_eq := rfl
  segmenter_eq := rfl
  few := Nat.zero_le _
  attributes := rfl
  items? term := Multimap.items?_empty term

lemma postingsAfter_concat (schema : Schema) (segmenter : Segmenter) (rows : List Row) (row : Row)
    (term : Term) :
    postingsAfter schema segmenter (rows ++ [row]) term =
      postingsAfter schema segmenter rows term ++
        (posting? term (UInt32.ofNat rows.length) (row.fieldTokens schema segmenter)).toList := by
  unfold postingsAfter
  rw [List.zipIdx_append, List.filterMap_append]
  cases h : posting? term (UInt32.ofNat rows.length) (row.fieldTokens schema segmenter) <;> simp [h]

lemma built_insert {rows : List Row} {b : Builder} (h : Built schema segmenter rows b)
    (hlt : rows.length < UInt32.size) (row : Row) :
    Built schema segmenter (rows ++ [row]) (b.insert (UInt32.ofNat rows.length) row) where
  schema_eq := h.schema_eq
  segmenter_eq := h.segmenter_eq
  few := by
    rw [List.length_append, List.length_singleton]
    exact hlt
  attributes := by
    simp only [Builder.insert, h.attributes, h.schema_eq, push_columnsOf, List.map_append, List.map_cons,
      List.map_nil]
  items? term := by
    simp only [Builder.insert, h.schema_eq, h.segmenter_eq]
    rw [items?_foldl_add, itemsFor_documentPostings, h.items, h.items?, postingsAfter_concat]
    cases posting? term (UInt32.ofNat rows.length) (row.fieldTokens schema segmenter) with
    | none => simp
    | some p => simp

lemma Built.withChecked {rows : List Row} {b : Builder} (h : Built schema segmenter rows b)
    (checked : Bool) : Built schema segmenter rows { b with checked } :=
  ⟨h.schema_eq, h.segmenter_eq, h.few, h.attributes, h.items?⟩

lemma built_addRow {rows : List Row} {b b' : Builder} {row : Row} {ordinal : Ordinal}
    (hb : Built schema segmenter rows b) (h : b.addRow row = (b', .ok ordinal)) :
    Built schema segmenter (rows ++ [row]) b' := by
  obtain ⟨hlt, rfl, rfl⟩ := addRow_eq_ok h
  rw [hb.documentCount] at hlt ⊢
  exact built_insert (hb.withChecked true) hlt row

lemma built_addRow_error {rows : List Row} {b b' : Builder} {row : Row} {e : SearchError}
    (hb : Built schema segmenter rows b) (h : b.addRow row = (b', .error e)) :
    Built schema segmenter rows b' := by
  obtain ⟨checked, rfl⟩ := addRow_eq_error h
  exact hb.withChecked checked

lemma built_adds {rows added : List Row} {b c : Builder} (hb : Built schema segmenter rows b)
    (h : Adds b added c) : Built schema segmenter (rows ++ added) c := by
  induction h generalizing rows with
  | nil b => rwa [List.append_nil]
  | cons hrow _ ih =>
    have hrest := ih (built_addRow hb hrow)
    rwa [List.append_assoc, List.singleton_append] at hrest

lemma built_buildIndex {source : RowSource} {index : Index}
    (h : buildIndex schema segmenter source = .ok index) :
    ∃ rows b, source = rows.map .ok ∧ Built schema segmenter rows b ∧ b.index = index := by
  unfold buildIndex at h
  cases hrun : (Builder.new schema segmenter).addSource source with
  | mk b result =>
    rw [hrun] at h
    obtain ⟨count, rfl, hindex⟩ := map_eq_ok_iff.mp h
    obtain ⟨rows, hsource, hadds, -⟩ := addSource_eq_ok_iff.mp hrun
    exact ⟨rows, b, hsource, built_adds (built_new schema segmenter) hadds, hindex⟩

lemma built_buildIndex_rows {rows : List Row} {index : Index}
    (h : buildIndex schema segmenter (rows.map .ok) = .ok index) :
    ∃ b, Built schema segmenter rows b ∧ b.index = index := by
  obtain ⟨taken, b, hrows, hb, hindex⟩ := built_buildIndex h
  obtain rfl := List.map_injective_iff.mpr (fun _ _ => Except.ok.inj) hrows
  exact ⟨b, hb, hindex⟩

lemma pairwise_postingsAfter (schema : Schema) (segmenter : Segmenter) {rows : List Row}
    (hfew : rows.length ≤ UInt32.size) (term : Term) :
    (postingsAfter schema segmenter rows term).Pairwise fun p q => p.ordinal < q.ordinal := by
  rw [postingsAfter, List.pairwise_filterMap]
  refine (pairwise_zipIdx rows).imp_of_mem fun {a b} ha hb hlt p hp q hq => ?_
  have hb' : b.2 < UInt32.size := Nat.lt_of_lt_of_le (List.snd_lt_of_mem_zipIdx hb) (by simpa using hfew)
  rw [(posting?_eq_some hp).1, (posting?_eq_some hq).1, UInt32.lt_iff_toNat_lt,
    UInt32.toNat_ofNat_of_lt' (Nat.lt_trans hlt hb'), UInt32.toNat_ofNat_of_lt' hb']
  exact hlt

lemma mem_ordinals_postingsAfter (schema : Schema) (segmenter : Segmenter) {rows : List Row}
    (hfew : rows.length ≤ UInt32.size) (term : Term) (n : Ordinal) :
    n ∈ ordinals (postingsAfter schema segmenter rows term) ↔
      ∃ row, rows[n.toNat]? = some row ∧
        ∃ field ∈ row.fieldTokens schema segmenter, ∃ token ∈ field.2, Term.ofText token.text = term := by
  simp only [ordinals, postingsAfter, List.mem_map, List.mem_filterMap, Prod.exists,
    List.mem_zipIdx_iff_getElem?, ← posting?_ne_none_iff term n]
  constructor
  · rintro ⟨p, ⟨row, k, hrow, hp⟩, rfl⟩
    have hk : k < UInt32.size :=
      Nat.lt_of_lt_of_le (List.getElem?_eq_some_iff.mp hrow).1 hfew
    rw [(posting?_eq_some hp).1, UInt32.toNat_ofNat_of_lt' hk]
    exact ⟨row, hrow, by simp [hp]⟩
  · rintro ⟨row, hrow, hp⟩
    obtain ⟨p, hp⟩ := Option.ne_none_iff_exists'.mp hp
    exact ⟨p, ⟨row, n.toNat, hrow, by rwa [UInt32.ofNat_toNat]⟩, (posting?_eq_some hp).1⟩

lemma postingsAfter_ne_nil_iff (schema : Schema) (segmenter : Segmenter) (rows : List Row)
    (term : Term) :
    postingsAfter schema segmenter rows term ≠ [] ↔
      ∃ row ∈ rows, ∃ field ∈ row.fieldTokens schema segmenter, ∃ token ∈ field.2,
        Term.ofText token.text = term := by
  constructor
  · intro h
    obtain ⟨p, hp⟩ := List.exists_mem_of_ne_nil _ h
    obtain ⟨⟨row, k⟩, hrow, hposting⟩ := List.mem_filterMap.mp hp
    have hmem : row ∈ rows := List.mem_of_getElem? (List.mem_zipIdx_iff_getElem?.mp hrow)
    exact ⟨row, hmem, (posting?_ne_none_iff term (UInt32.ofNat k) _).mp (by simp [hposting])⟩
  · rintro ⟨row, hrow, hfield⟩
    obtain ⟨k, hk⟩ := List.mem_iff_getElem?.mp hrow
    obtain ⟨p, hp⟩ := Option.ne_none_iff_exists'.mp
      ((posting?_ne_none_iff term (UInt32.ofNat k) _).mpr hfield)
    have hmem : p ∈ postingsAfter schema segmenter rows term :=
      List.mem_filterMap.mpr ⟨(row, k), List.mem_zipIdx_iff_getElem?.mpr hk, hp⟩
    exact List.ne_nil_of_mem hmem

lemma payload_of_mem_postingsAfter {schema : Schema} {segmenter : Segmenter} {rows : List Row}
    {term : Term} {p : Posting} (h : p ∈ postingsAfter schema segmenter rows term) :
    p.payload ≠ [] ∧ payloadFault? p.payload = none := by
  obtain ⟨entry, -, hentry⟩ := List.mem_filterMap.mp h
  exact (posting?_eq_some hentry).2

lemma Built.record {rows : List Row} {b : Builder} (h : Built schema segmenter rows b)
    {record : Term × PostingList} (hrecord : record ∈ b.index.postings.entries) :
    record.2 = postingsAfter schema segmenter rows record.1 ∧ record.2 ≠ [] := by
  have hkey := Multimap.mem_entries.mp hrecord
  rw [h.items?] at hkey
  split at hkey
  · exact absurd hkey (by simp)
  · rename_i hne
    rw [← Option.some.inj hkey]
    exact ⟨rfl, hne⟩

/-- The keys of the postings are the terms of the tokens that were found. -/
lemma Built.exists_token {rows : List Row} {b : Builder} (h : Built schema segmenter rows b)
    {record : Term × PostingList} (hrecord : record ∈ b.index.postings.entries) :
    ∃ row ∈ rows, ∃ field ∈ row.fieldTokens schema segmenter, ∃ token ∈ field.2,
      Term.ofText token.text = record.1 := by
  obtain ⟨hlist, hne⟩ := h.record hrecord
  rw [hlist] at hne
  exact (postingsAfter_ne_nil_iff schema segmenter rows record.1).mp hne

/-- What was built can be searched. -/
lemma Built.consistent {rows : List Row} {b : Builder} (h : Built schema segmenter rows b) :
    Consistent b.index.postings b.index.attributes where
  columns kind := by
    rw [h.attributes]
    cases kind <;> simp [columnsOf, AttributeStore.columnLength, AttributeStore.documentCount]
  ascending term := by
    rw [h.items]
    exact (pairwise_postingsAfter schema segmenter h.few term).imp UInt32.le_of_lt
  within term p hp := by
    rw [h.items] at hp
    obtain ⟨row, hrow, -⟩ := (mem_ordinals_postingsAfter schema segmenter h.few term p.ordinal).mp
      (List.mem_map_of_mem hp)
    rw [h.attributes, documentCount_columnsOf, List.length_map]
    exact (List.getElem?_eq_some_iff.mp hrow).1

end TextSearch.Proofs
