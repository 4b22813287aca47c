import TextSearch.Index.Builder
import TextSearch.Proofs.Outcomes

/-!
# Steps of a builder

A row is refused if it lacks a column and none before had all of them, or if no ordinal is left for it. All
other rows are taken, and a source is added to its end if and only if all its rows are.
-/

namespace TextSearch.Proofs

/-- The first column of a schema that a row lacks. -/
def lackedColumn? (schema : Schema) (row : Row) : Option String :=
  schema.columns.find? fun column => column ∉ row.columns

lemma checkColumns_eq (schema : Schema) (row : Row) :
    schema.checkColumns row.columns =
      match lackedColumn? schema row with
      | some column => .error (.unknownColumn column)
      | none => .ok () := by
  have hfirst : (schema.columns.find? fun column => !row.columns.contains column) =
      lackedColumn? schema row := by
    unfold lackedColumn?
    congr 1
    funext column
    simp
  unfold Schema.checkColumns
  cases hlacked : lackedColumn? schema row with
  | some column => rw [hfirst, hlacked]
  | none => rw [hfirst, hlacked]

section Rows

variable {b c : Builder} {row : Row}

lemma addRow_of_lacks {column : String} (hchecked : b.checked = false)
    (h : lackedColumn? b.schema row = some column) :
    b.addRow row = (b, .error (.unknownColumn column)) := by
  have hcheck : b.checkRow row = .error (.unknownColumn column) := by
    simp [Builder.checkRow, hchecked, checkColumns_eq, h]
  rw [Builder.addRow, hcheck]

lemma addRow_of_passes (h : b.checked = true ∨ lackedColumn? b.schema row = none) :
    b.addRow row =
      if b.documentCount < UInt32.size then
        (({ b with checked := true } : Builder).insert (UInt32.ofNat b.documentCount) row,
          .ok (UInt32.ofNat b.documentCount))
      else ({ b with checked := true }, .error (.tooManyDocuments b.documentCount)) := by
  have hcheck : b.checkRow row = .ok { b with checked := true } := by
    unfold Builder.checkRow
    split
    · rename_i hchecked
      rw [← hchecked]
    · rename_i hchecked
      rw [checkColumns_eq, h.resolve_left hchecked]
  have hcount : Builder.documentCount { b with checked := true } = b.documentCount := rfl
  rw [Builder.addRow, hcheck]
  dsimp only
  rw [hcount, nextOrdinal]
  by_cases hlt : b.documentCount < UInt32.size
  · rw [if_pos hlt, if_pos hlt]
  · rw [if_neg hlt, if_neg hlt]

/-- All that can come of a row. -/
lemma addRow_cases (b : Builder) (row : Row) :
    (b.checked = false ∧ ∃ column, lackedColumn? b.schema row = some column ∧
      b.addRow row = (b, .error (.unknownColumn column))) ∨
    (b.documentCount < UInt32.size ∧ b.addRow row =
      (({ b with checked := true } : Builder).insert (UInt32.ofNat b.documentCount) row,
        .ok (UInt32.ofNat b.documentCount))) ∨
    (UInt32.size ≤ b.documentCount ∧
      b.addRow row = ({ b with checked := true }, .error (.tooManyDocuments b.documentCount))) := by
  by_cases hpasses : b.checked = true ∨ lackedColumn? b.schema row = none
  · rw [addRow_of_passes hpasses]
    by_cases hlt : b.documentCount < UInt32.size
    · rw [if_pos hlt]
      exact .inr (.inl ⟨hlt, rfl⟩)
    · rw [if_neg hlt]
      exact .inr (.inr ⟨Nat.le_of_not_lt hlt, rfl⟩)
  · obtain ⟨hflag, hlacks⟩ := not_or.mp hpasses
    have hchecked : b.checked = false := eq_false_of_ne_true hflag
    obtain ⟨column, hcolumn⟩ := Option.ne_none_iff_exists'.mp hlacks
    exact .inl ⟨hchecked, column, hcolumn, addRow_of_lacks hchecked hcolumn⟩

/-- A row that is taken becomes the next document. -/
lemma addRow_eq_ok {ordinal : Ordinal} (h : b.addRow row = (c, .ok ordinal)) :
    b.documentCount < UInt32.size ∧ ordinal = UInt32.ofNat b.documentCount ∧
      c = ({ b with checked := true } : Builder).insert ordinal row := by
  rcases addRow_cases b row with ⟨-, column, -, hrow⟩ | ⟨hlt, hrow⟩ | ⟨-, hrow⟩
  · exact absurd (Prod.mk.inj (hrow.symm.trans h)).2 (by simp)
  · obtain ⟨rfl, hordinal⟩ := Prod.mk.inj (hrow.symm.trans h)
    obtain rfl := Except.ok.inj hordinal
    exact ⟨hlt, rfl, rfl⟩
  · exact absurd (Prod.mk.inj (hrow.symm.trans h)).2 (by simp)

/-- The document of a row has its values. -/
lemma record_addRow {ordinal : Ordinal} (h : b.addRow row = (c, .ok ordinal)) :
    c.index.attributes.unsigned.record ordinal = (row.values b.schema).unsigned := by
  obtain ⟨hlt, rfl, rfl⟩ := addRow_eq_ok h
  have hordinal : (UInt32.ofNat b.documentCount).toNat = b.index.attributes.unsigned.size :=
    UInt32.toNat_ofNat_of_lt' hlt
  simp [Column.record, Builder.insert, AttributeStore.push, Column.add, hordinal]

lemma getElem?_record_addRow {ordinal : Ordinal} (h : b.addRow row = (c, .ok ordinal))
    {offset : Nat} {name : String} (hoffset : b.schema.unsigned[offset]? = some name) :
    (c.index.attributes.unsigned.record ordinal)[offset]? = some (unsignedValue (row.raw name).toList) := by
  rw [record_addRow h, Row.values, List.getElem?_map, hoffset, Option.map_some]

/-- A row that is refused leaves no document, but its columns may have been checked. -/
lemma addRow_eq_error {e : SearchError} (h : b.addRow row = (c, .error e)) :
    ∃ checked, c = { b with checked } := by
  rcases addRow_cases b row with ⟨-, column, -, hrow⟩ | ⟨-, hrow⟩ | ⟨-, hrow⟩
  · exact ⟨b.checked, (Prod.mk.inj (h.symm.trans hrow)).1⟩
  · exact absurd (Prod.mk.inj (hrow.symm.trans h)).2 (by simp)
  · exact ⟨true, (Prod.mk.inj (h.symm.trans hrow)).1⟩

end Rows

/-- A builder takes some rows, one after the other, and becomes another one. -/
inductive Adds : Builder → List Row → Builder → Prop where
  | nil (b : Builder) : Adds b [] b
  | cons {b c d : Builder} {row : Row} {ordinal : Ordinal} {rows : List Row}
      (h : b.addRow row = (c, .ok ordinal)) (hrest : Adds c rows d) : Adds b (row :: rows) d

section Sources

variable {b c d : Builder} {rows others : List Row}

lemma Adds.append (h : Adds b rows c) (h' : Adds c others d) : Adds b (rows ++ others) d := by
  induction h with
  | nil b => exact h'
  | cons hrow _ ih => exact .cons hrow (ih h')

lemma Adds.split (h : Adds b (rows ++ others) d) : ∃ c, Adds b rows c ∧ Adds c others d := by
  induction rows generalizing b with
  | nil => exact ⟨b, .nil b, h⟩
  | cons row rows ih =>
    cases h with
    | cons hrow hrest =>
      obtain ⟨c, hrows, hothers⟩ := ih hrest
      exact ⟨c, .cons hrow hrows, hothers⟩

/-- Rows in front matter only through the builder that they make, and are counted. -/
lemma Adds.addSource_append (h : Adds b rows c) (rest : RowSource) :
    b.addSource (rows.map .ok ++ rest) =
      ((c.addSource rest).1, (c.addSource rest).2.map (· + rows.length)) := by
  induction h with
  | nil b =>
    have hsame : (b.addSource rest).2.map (· + 0) = (b.addSource rest).2 := by
      cases (b.addSource rest).2 <;> rfl
    rw [List.map_nil, List.nil_append, List.length_nil, hsame]
  | @cons b between c row ordinal rows hrow _ ih =>
    have hcount : ((c.addSource rest).2.map (· + rows.length)).map (· + 1) =
        (c.addSource rest).2.map (· + (row :: rows).length) := by
      cases (c.addSource rest).2 <;> rfl
    rw [List.map_cons, List.cons_append, Builder.addSource, hrow]
    dsimp only
    rw [ih, hcount]

/-- A source is added to its end if and only if it holds rows that are taken. -/
lemma addSource_eq_ok_iff {source : RowSource} {n : Nat} :
    b.addSource source = (c, .ok n) ↔ ∃ rows, source = rows.map .ok ∧ Adds b rows c ∧ n = rows.length := by
  constructor
  · intro h
    induction source generalizing b n with
    | nil =>
      obtain ⟨rfl, hn⟩ := Prod.mk.inj h
      exact ⟨[], rfl, .nil b, (Except.ok.inj hn).symm⟩
    | cons first source ih =>
      cases first with
      | error e => exact absurd (Prod.mk.inj h).2 (by simp)
      | ok row =>
        rw [Builder.addSource] at h
        split at h
        · exact absurd (Prod.mk.inj h).2 (by simp)
        · rename_i between ordinal hrow
          obtain ⟨hlast, hcount⟩ := Prod.mk.inj h
          obtain ⟨k, hk, rfl⟩ := map_eq_ok_iff.mp hcount
          obtain ⟨rows, rfl, hrows, rfl⟩ := ih (Prod.ext hlast hk)
          exact ⟨row :: rows, rfl, .cons hrow hrows, rfl⟩
  · rintro ⟨rows, rfl, hrows, rfl⟩
    have hnone : c.addSource [] = (c, .ok 0) := rfl
    have hall := hrows.addSource_append []
    rw [List.append_nil, hnone] at hall
    rw [hall, Except.map, Nat.zero_add]

lemma addSource_append_eq_ok_iff {first second : RowSource} {n : Nat} :
    b.addSource (first ++ second) = (d, .ok n) ↔ ∃ c k m, b.addSource first = (c, .ok k) ∧
      c.addSource second = (d, .ok m) ∧ n = k + m := by
  constructor
  · intro h
    obtain ⟨all, hall, hadds, rfl⟩ := addSource_eq_ok_iff.mp h
    obtain ⟨rows, others, rfl, rfl, rfl⟩ := List.append_eq_map_iff.mp hall
    obtain ⟨c, hrows, hothers⟩ := hadds.split
    exact ⟨c, _, _, addSource_eq_ok_iff.mpr ⟨rows, rfl, hrows, rfl⟩,
      addSource_eq_ok_iff.mpr ⟨others, rfl, hothers, rfl⟩, List.length_append⟩
  · rintro ⟨c, k, m, hfirst, hsecond, rfl⟩
    obtain ⟨rows, rfl, hrows, rfl⟩ := addSource_eq_ok_iff.mp hfirst
    obtain ⟨others, rfl, hothers, rfl⟩ := addSource_eq_ok_iff.mp hsecond
    exact addSource_eq_ok_iff.mpr ⟨rows ++ others, by rw [List.map_append], hrows.append hothers, by
      rw [List.length_append]⟩

end Sources

end TextSearch.Proofs
