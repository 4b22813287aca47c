import TextSearch.Proofs.BuilderRuns

/-!
# Histories of a builder

Rows and sources may be given to a builder in any order, and it may refuse any of them. What it has then
is what it has after the rows that it took, and these have the ordinals from 0 on.
-/

namespace TextSearch.Proofs

variable {schema : Schema} {segmenter : Segmenter}

/-- A call that gives rows to a builder. -/
inductive Feed where
  | addRow (row : Row)
  | addSource (source : RowSource)

def Feed.run (b : Builder) : Feed → Builder
  | .addRow row => (b.addRow row).1
  | .addSource source => (b.addSource source).1

/-- The rows of a source that are taken before the first error, with the ordinals they are given. -/
def takenFrom (b : Builder) : RowSource → List (Row × Ordinal)
  | [] => []
  | .error _ :: _ => []
  | .ok row :: rest =>
    match b.addRow row with
    | (_, .error _) => []
    | (b, .ok ordinal) => (row, ordinal) :: takenFrom b rest

def Feed.taken (b : Builder) : Feed → List (Row × Ordinal)
  | .addRow row =>
    match (b.addRow row).2 with
    | .error _ => []
    | .ok ordinal => [(row, ordinal)]
  | .addSource source => takenFrom b source

/-- A builder after a history of calls. -/
def fed (b : Builder) (history : List Feed) : Builder := history.foldl Feed.run b

/-- The rows that are taken in the course of a history, with the ordinals they are given. -/
def takenIn (b : Builder) : List Feed → List (Row × Ordinal)
  | [] => []
  | feed :: rest => feed.taken b ++ takenIn (feed.run b) rest

lemma takenIn_append (b : Builder) (history later : List Feed) :
    takenIn b (history ++ later) = takenIn b history ++ takenIn (fed b history) later := by
  induction history generalizing b with
  | nil => rfl
  | cons feed history ih =>
    rw [List.cons_append, takenIn, takenIn, ih, List.append_assoc]
    rfl

/-- A builder that has taken some rows and has numbered them. -/
structure Numbered (schema : Schema) (segmenter : Segmenter) (taken : List (Row × Ordinal))
    (b : Builder) : Prop where
  built : Built schema segmenter (taken.map Prod.fst) b
  ordinals : (taken.map fun entry => entry.2.toNat) = List.range taken.length

lemma numbered_new (schema : Schema) (segmenter : Segmenter) :
    Numbered schema segmenter [] (Builder.new schema segmenter) :=
  ⟨built_new schema segmenter, rfl⟩

lemma numbered_addRow {taken : List (Row × Ordinal)} {b b' : Builder} {row : Row} {ordinal : Ordinal}
    (h : Numbered schema segmenter taken b) (hrow : b.addRow row = (b', .ok ordinal)) :
    Numbered schema segmenter (taken ++ [(row, ordinal)]) b' where
  built := by
    rw [List.map_append, List.map_singleton]
    exact built_addRow h.built hrow
  ordinals := by
    obtain ⟨hlt, rfl, -⟩ := addRow_eq_ok hrow
    have hcount : b.documentCount = taken.length := by
      rw [h.built.documentCount, List.length_map]
    rw [hcount] at hlt ⊢
    have hlast : (UInt32.ofNat taken.length).toNat = taken.length := UInt32.toNat_ofNat_of_lt' hlt
    rw [List.map_append, h.ordinals, List.map_singleton, hlast, List.length_append,
      List.length_singleton, List.range_succ]

lemma numbered_addRow_error {taken : List (Row × Ordinal)} {b b' : Builder} {row : Row}
    {e : SearchError} (h : Numbered schema segmenter taken b) (hrow : b.addRow row = (b', .error e)) :
    Numbered schema segmenter taken b' :=
  ⟨built_addRow_error h.built hrow, h.ordinals⟩

lemma numbered_addSource {taken : List (Row × Ordinal)} {b : Builder}
    (h : Numbered schema segmenter taken b) (source : RowSource) :
    Numbered schema segmenter (taken ++ takenFrom b source) (b.addSource source).1 := by
  -- the rows that are left are added to a builder that has taken one row more
  induction source generalizing taken b with
  | nil =>
    rw [takenFrom, List.append_nil]
    exact h
  | cons first source ih =>
    cases first with
    | error e =>
      rw [takenFrom, List.append_nil]
      exact h
    | ok row =>
      rw [takenFrom, Builder.addSource]
      cases hrow : b.addRow row with
      | mk b' result =>
        cases result with
        | error e =>
          rw [List.append_nil]
          exact numbered_addRow_error h hrow
        | ok ordinal =>
          have hrest := ih (numbered_addRow h hrow)
          rwa [List.append_assoc, List.singleton_append] at hrest

lemma numbered_feed {taken : List (Row × Ordinal)} {b : Builder}
    (h : Numbered schema segmenter taken b) (feed : Feed) :
    Numbered schema segmenter (taken ++ feed.taken b) (feed.run b) := by
  cases feed with
  | addSource source => exact numbered_addSource h source
  | addRow row =>
    rw [Feed.taken, Feed.run]
    cases hrow : b.addRow row with
    | mk b' result =>
      cases result with
      | error e =>
        rw [List.append_nil]
        exact numbered_addRow_error h hrow
      | ok ordinal => exact numbered_addRow h hrow

lemma numbered_fed {taken : List (Row × Ordinal)} {b : Builder}
    (h : Numbered schema segmenter taken b) (history : List Feed) :
    Numbered schema segmenter (taken ++ takenIn b history) (fed b history) := by
  induction history generalizing taken b with
  | nil =>
    rw [takenIn, List.append_nil]
    exact h
  | cons feed history ih =>
    have hrest := ih (numbered_feed h feed)
    rwa [List.append_assoc] at hrest

lemma numbered_history (schema : Schema) (segmenter : Segmenter) (history : List Feed) :
    Numbered schema segmenter (takenIn (Builder.new schema segmenter) history)
      (fed (Builder.new schema segmenter) history) :=
  numbered_fed (numbered_new schema segmenter) history

/-- What holds of a builder at any time: the columns and the posting lists speak of the same documents,
although a row changes the lists first. -/
structure WellBuilt (schema : Schema) (taken : List (Row × Ordinal)) (b : Builder) : Prop where
  names : b.index.attributes.names = schema.attributes
  ordinals : (taken.map fun entry => entry.2.toNat) = List.range taken.length
  columns : ∀ kind, b.index.attributes.columnLength kind = taken.length
  unsigned : ∀ record ∈ b.index.attributes.unsigned,
    record.length = (b.index.attributes.names .unsigned).length
  float : ∀ record ∈ b.index.attributes.float,
    record.length = (b.index.attributes.names .float).length
  string : ∀ record ∈ b.index.attributes.string,
    record.length = (b.index.attributes.names .string).length
  listed : ∀ entry ∈ b.index.postings.entries, entry.2 ≠ []
  ascending : ∀ entry ∈ b.index.postings.entries,
    entry.2.Pairwise fun p q => p.ordinal < q.ordinal
  within : ∀ entry ∈ b.index.postings.entries, ∀ p ∈ entry.2, p.ordinal.toNat < b.documentCount
  payloads : ∀ entry ∈ b.index.postings.entries, ∀ p ∈ entry.2,
    p.payload ≠ [] ∧ p.payload.length ≤ 255 ∧ Posting.ofPayload p.ordinal p.payload = .ok p
  loads : ∃ index, LoadedIndex.ofIndex b.finish = .ok index

lemma length_of_mem_column {α : Type} {rows : List Row} (part : Values → List α) {size : Nat}
    (h : ∀ row, (part (Row.values schema row)).length = size) {record : List α}
    (hrecord : record ∈ ((rows.map (Row.values schema)).map part).toArray) : record.length = size := by
  rw [List.mem_toArray, List.map_map] at hrecord
  obtain ⟨row, -, rfl⟩ := List.mem_map.mp hrecord
  exact h row

lemma Numbered.wellBuilt {taken : List (Row × Ordinal)} {b : Builder}
    (h : Numbered schema segmenter taken b) : WellBuilt schema taken b where
  names := by
    rw [h.built.attributes]
    rfl
  ordinals := h.ordinals
  columns kind := by
    have hcount : b.index.attributes.documentCount = taken.length := by
      rw [h.built.attributes, documentCount_columnsOf, List.length_map, List.length_map]
    rw [h.built.consistent.columns kind, hcount]
  unsigned := by
    rw [h.built.attributes]
    intro record hrecord
    exact length_of_mem_column Values.unsigned (fun row => List.length_map _) hrecord
  float := by
    rw [h.built.attributes]
    intro record hrecord
    exact length_of_mem_column Values.float (fun row => List.length_map _) hrecord
  string := by
    rw [h.built.attributes]
    intro record hrecord
    exact length_of_mem_column Values.string (fun row => List.length_map _) hrecord
  listed entry hentry := (h.built.record hentry).2
  ascending entry hentry := by
    rw [(h.built.record hentry).1]
    exact pairwise_postingsAfter schema segmenter h.built.few entry.1
  within entry hentry p hp := by
    have hitems : p ∈ b.index.postings.items entry.1 := by
      rwa [h.built.items, ← (h.built.record hentry).1]
    exact h.built.consistent.within entry.1 p hitems
  payloads entry hentry p hp := by
    rw [(h.built.record hentry).1] at hp
    obtain ⟨hne, hfault⟩ := payload_of_mem_postingsAfter hp
    have hsize : p.payload.length ≤ maxPayload := (payloadFault?_eq_none_iff.mp hfault).1
    exact ⟨hne, hsize, ofPayload_eq_ok_iff.mpr ⟨hfault, rfl⟩⟩
  loads := ⟨_, assemble_eq_ok_iff.mpr ⟨h.built.consistent, rfl⟩⟩

/-- Whatever rows and sources a builder was given, and whichever of them it refused, it is well built,
and what it has can be loaded. -/
theorem builder_wellBuilt_after_history (schema : Schema) (segmenter : Segmenter)
    (history : List Feed) :
    WellBuilt schema (takenIn (Builder.new schema segmenter) history)
      (fed (Builder.new schema segmenter) history) :=
  (numbered_history schema segmenter history).wellBuilt

/-- A row without the column is refused until some row had it. A source is left at its error. -/
example :
    (takenIn (Builder.new { text := ["note"] } fun _ => .error (.tokenizer ""))
      [.addRow [], .addSource [.ok [("note", "x")], .error (.tokenizer ""), .ok []], .addRow []]) =
      [([("note", "x")], 0), ([], 1)] := by
  rfl

end TextSearch.Proofs
