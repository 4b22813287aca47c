import TextSearch.Proofs.AllowedSets
import TextSearch.Proofs.BuildThenSearch

/-!
# Filters on one column

What a filter on one attribute retains depends on the column of that attribute alone, unless it is a multi
attribute. The multi attributes of a row share one record, and what stands at the place at which a filter looks
depends on how many values the attributes in front have.
-/

namespace TextSearch.Proofs

variable {schema : Schema} {segmenter : Segmenter} {rows : List Row} {name : String}

/-- The documents of an index that pass a filter. -/
def retained (index : Index) (filter : Filter) : List Ordinal :=
  ((List.range index.documentCount).map UInt32.ofNat).filter fun n =>
    (index.attributes.document? n).any (admitsAll (filter.resolve index.attributes))

lemma retained_buildIndex {built : Index}
    (h : buildIndex schema segmenter (rows.map .ok) = .ok built) (filter : Filter) :
    retained built filter = ((List.range rows.length).map UInt32.ofNat).filter fun n =>
      rows[n.toNat]?.any fun row =>
        admitsAll (filter.resolve (AttributeStore.ofSchema schema)) ⟨n, row.values schema⟩ := by
  obtain ⟨b, hb, rfl⟩ := built_buildIndex_rows h
  have hcount : b.index.documentCount = rows.length := hb.documentCount
  have hclauses : filter.resolve b.index.attributes = filter.resolve (AttributeStore.ofSchema schema) := by
    rw [hb.attributes]
    rfl
  unfold retained
  rw [hcount, hclauses, hb.attributes]
  apply List.filter_congr
  intro n _
  rw [document?_columnsOf, List.getElem?_map]
  cases rows[n.toNat]? <;> rfl

lemma admitsAll_single (attributes : AttributeStore) (d : Document) (name : String) (values : List String) :
    admitsAll ((Filter.empty.allow name values).resolve attributes) d =
      (attributes.resolve name).all fun place =>
        (d.values.text? place.1 place.2).any fun value => values.contains value := by
  change admitsAll ([(name, values)].filterMap _) d = _
  cases h : attributes.resolve name with
  | none => simp [admitsAll, h]
  | some place => simp [admitsAll, Clause.admits, h]

/-! ### Values of a row -/

/-- The place of a multi attribute holds one of its own values: some values stand in front of them, and the
place lies behind those and not behind its own. -/
structure OwnPlace (schema : Schema) (name : String) (offset front : Nat) (row : Row) : Prop where
  inFront : ((schema.multi.take offset).flatMap fun other => multiValues (row.raw other).toList).length = front
  start : front ≤ offset
  stop : offset < front + (multiValues (row.raw name).toList).length

lemma OwnPlace.multi {offset front : Nat} {row : Row} (h : OwnPlace schema name offset front row)
    (hname : schema.multi[offset]? = some name) :
    (row.values schema).multi[offset]? = (multiValues (row.raw name).toList)[offset - front]? := by
  obtain ⟨hlt, hget⟩ := List.getElem?_eq_some_iff.mp hname
  have hsplit : schema.multi = schema.multi.take offset ++ name :: schema.multi.drop (offset + 1) := by
    rw [← hget, ← List.drop_eq_getElem_cons hlt, List.take_append_drop]
  have hown : offset - front < (multiValues (row.raw name).toList).length := by
    have hstart := h.start
    have hstop := h.stop
    omega
  change (schema.multi.flatMap fun other => multiValues (row.raw other).toList)[offset]? = _
  rw [hsplit, List.flatMap_append, List.getElem?_append_right (h.inFront.trans_le h.start), h.inFront,
    List.flatMap_cons, List.getElem?_append_left hown]

/-- Two rows agree on what a filter on a name looks at: on the column of that name, and if it is a multi
attribute, on all multi columns or at least on how many values stand in front of its own. -/
structure AgreeFor (schema : Schema) (name : String) (row row' : Row) : Prop where
  column : row.raw name = row'.raw name
  multi : ∀ offset, (AttributeStore.ofSchema schema).resolve name = some (.multi, offset) →
    (∀ other ∈ schema.multi, row.raw other = row'.raw other) ∨
      ∃ front, OwnPlace schema name offset front row ∧ OwnPlace schema name offset front row'

lemma AgreeFor.text? {row row' : Row} (h : AgreeFor schema name row row') {kind : Kind} {offset : Nat}
    (hplace : (AttributeStore.ofSchema schema).resolve name = some (kind, offset)) :
    (row.values schema).text? kind offset = (row'.values schema).text? kind offset := by
  have hname : (schema.attributes kind)[offset]? = some name := (resolve_eq_some_iff.mp hplace).stands
  cases kind with
  | unsigned =>
    have hname : schema.unsigned[offset]? = some name := hname
    simp only [Values.text?, Row.values, List.getElem?_map, hname, Option.map_some, h.column]
  | float =>
    have hname : schema.float[offset]? = some name := hname
    simp only [Values.text?, Row.values, List.getElem?_map, hname, Option.map_some, h.column]
  | string =>
    have hname : schema.string[offset]? = some name := hname
    simp only [Values.text?, Row.values, List.getElem?_map, hname, Option.map_some, h.column]
  | multi =>
    unfold Values.text?
    dsimp only
    rcases h.multi offset hplace with hall | ⟨front, hrow, hrow'⟩
    · have hrecord : (row.values schema).multi = (row'.values schema).multi := by
        apply List.flatMap_congr
        intro other hother
        rw [hall other hother]
      rw [hrecord]
    · rw [hrow.multi hname, hrow'.multi hname, h.column]

/-- Indexes that were built from rows that agree for a name retain the same documents under a filter on that
name, whatever the other columns hold. -/
theorem single_filter_reads_its_column {segmenter' : Segmenter} {rows' : List Row} {built built' : Index}
    (hbuild : buildIndex schema segmenter (rows.map .ok) = .ok built)
    (hbuild' : buildIndex schema segmenter' (rows'.map .ok) = .ok built')
    (hagree : List.Forall₂ (AgreeFor schema name) rows rows') (values : List String) :
    retained built (Filter.empty.allow name values) = retained built' (Filter.empty.allow name values) := by
  rw [retained_buildIndex hbuild, retained_buildIndex hbuild', hagree.length_eq]
  apply List.filter_congr
  intro n _
  by_cases hn : n.toNat < rows.length
  · have hn' : n.toNat < rows'.length := hagree.length_eq ▸ hn
    have hrow : AgreeFor schema name rows[n.toNat] rows'[n.toNat] := hagree.get hn hn'
    rw [List.getElem?_eq_getElem hn, List.getElem?_eq_getElem hn', Option.any_some, Option.any_some,
      admitsAll_single, admitsAll_single]
    cases hplace : (AttributeStore.ofSchema schema).resolve name with
    | none => rw [Option.all_none, Option.all_none]
    | some place => rw [Option.all_some, Option.all_some, hrow.text? hplace]
  · have hn' : ¬n.toNat < rows'.length := hagree.length_eq ▸ hn
    rw [List.getElem?_eq_none (not_lt.mp hn), List.getElem?_eq_none (not_lt.mp hn')]

/-! ### Two multi attributes -/

def twoMulti : Schema where
  multi := ["tags", "marks"]
  text := ["body"]

def oneTag : Row := [("tags", "1"), ("marks", "5"), ("body", "cat")]

def twoTags : Row := [("tags", "1, 2"), ("marks", "5"), ("body", "cat")]

/-- Other tags, and as many of them, make no difference to a filter on the marks. -/
theorem single_filter_reads_its_column_marks :
    let otherTag : Row := [("tags", "9"), ("marks", "5"), ("body", "hen")]
    ∃ built built', buildIndex twoMulti wholeText ([oneTag].map .ok) = .ok built ∧
      buildIndex twoMulti wholeText ([otherTag].map .ok) = .ok built' ∧
      List.Forall₂ (AgreeFor twoMulti "marks") [oneTag] [otherTag] ∧
      retained built (Filter.empty.allow "marks" ["5"]) =
        retained built' (Filter.empty.allow "marks" ["5"]) := by
  intro otherTag
  obtain ⟨built, hbuild⟩ : ∃ built, buildIndex twoMulti wholeText ([oneTag].map .ok) = .ok built :=
    ⟨_, rfl⟩
  obtain ⟨built', hbuild'⟩ : ∃ built, buildIndex twoMulti wholeText ([otherTag].map .ok) = .ok built :=
    ⟨_, rfl⟩
  have hplace : (AttributeStore.ofSchema twoMulti).resolve "marks" = some (.multi, 1) := by decide
  have hrow : AgreeFor twoMulti "marks" oneTag otherTag := by
    refine ⟨by decide, fun offset hoffset => .inr ?_⟩
    obtain rfl : 1 = offset := (Prod.mk.inj (Option.some.inj (hplace.symm.trans hoffset))).2
    exact ⟨1, ⟨by decide +kernel, le_rfl, by decide +kernel⟩, ⟨by decide +kernel, le_rfl, by decide +kernel⟩⟩
  have hagree := List.Forall₂.cons hrow .nil
  exact ⟨built, built', hbuild, hbuild', hagree, single_filter_reads_its_column hbuild hbuild' hagree ["5"]⟩

/-- A second tag moves the marks away from their place, so a filter on the marks meets the tag. -/
theorem marks_are_moved_by_tags :
    ∃ built built', buildIndex twoMulti wholeText ([oneTag, twoTags].map .ok) = .ok built ∧
      buildIndex twoMulti wholeText ([oneTag, oneTag].map .ok) = .ok built' ∧
      List.Forall₂ (fun row row' => row.text? "marks" = row'.text? "marks") [oneTag, twoTags]
        [oneTag, oneTag] ∧
      retained built (Filter.empty.allow "marks" ["5"]) = [0] ∧
      retained built' (Filter.empty.allow "marks" ["5"]) = [0, 1] := by
  obtain ⟨built, hbuild⟩ :
      ∃ built, buildIndex twoMulti wholeText ([oneTag, twoTags].map .ok) = .ok built := ⟨_, rfl⟩
  obtain ⟨built', hbuild'⟩ :
      ∃ built, buildIndex twoMulti wholeText ([oneTag, oneTag].map .ok) = .ok built := ⟨_, rfl⟩
  refine ⟨built, built', hbuild, hbuild', by decide, ?_, ?_⟩
  · rw [retained_buildIndex hbuild]
    decide +kernel
  · rw [retained_buildIndex hbuild']
    decide +kernel

end TextSearch.Proofs
