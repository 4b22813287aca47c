import TextSearch.Proofs.BuilderRuns
import TextSearch.Proofs.FilterVerdicts
import TextSearch.Proofs.SearchPages

/-!
# Building and then searching

An index that was built from rows answers every request with the rows that the request describes. What
the postings leave out, the parts of positions that no byte holds and the hits for which a payload has no
room, is never missed.
-/

namespace TextSearch.Proofs

variable {schema : Schema} {segmenter : Segmenter}

/-- Whether one of the first 256 text fields of a row can be cut into tokens and one of them has a
text. -/
def HasToken (schema : Schema) (segmenter : Segmenter) (row : Row) (text : String) : Prop :=
  ∃ i < 256, ∃ name raw tokens, schema.text[i]? = some name ∧ row.text? name = some raw ∧
    segmenter raw = .ok tokens ∧ ∃ token ∈ tokens, token.text = text

lemma mem_fields_iff (schema : Schema) (name : String) :
    (∃ number, (number, name) ∈ schema.fields) ↔ ∃ i < 256, schema.text[i]? = some name := by
  simp only [Schema.fields, List.mem_map, Prod.exists, List.mem_zipIdx_iff_getElem?, List.getElem?_take,
    Prod.mk.injEq]
  constructor
  · rintro ⟨-, name', i, hi, rfl, rfl⟩
    split at hi
    · exact ⟨i, by assumption, hi⟩
    · exact absurd hi (by simp)
  · rintro ⟨i, hlt, hi⟩
    exact ⟨_, name, i, by rwa [if_pos hlt], rfl, rfl⟩

lemma mem_fieldTokens_iff (schema : Schema) (segmenter : Segmenter) (row : Row)
    (tokens : List Token) :
    (∃ number, (number, tokens) ∈ row.fieldTokens schema segmenter) ↔
      ∃ i < 256, ∃ name raw, schema.text[i]? = some name ∧ row.text? name = some raw ∧
        segmenter raw = .ok tokens := by
  constructor
  · rintro ⟨number, hmem⟩
    obtain ⟨⟨number', name⟩, hname, hsome⟩ := List.mem_filterMap.mp hmem
    obtain ⟨i, hi, htext⟩ := (mem_fields_iff schema name).mp ⟨number', hname⟩
    dsimp only at hsome
    split at hsome
    · rename_i found hcut
      obtain ⟨raw, hraw, hok⟩ := Option.map_eq_some_iff.mp hcut
      obtain ⟨-, rfl⟩ := Prod.mk.inj (Option.some.inj hsome)
      exact ⟨i, hi, name, raw, htext, hraw, hok⟩
    · exact absurd hsome (by simp)
  · rintro ⟨i, hi, name, raw, htext, hraw, hok⟩
    obtain ⟨number, hname⟩ := (mem_fields_iff schema name).mpr ⟨i, hi, htext⟩
    exact ⟨number, List.mem_filterMap.mpr ⟨(number, name), hname, by simp [hraw, hok]⟩⟩

lemma hasToken_iff (schema : Schema) (segmenter : Segmenter) (row : Row) (text : String) :
    HasToken schema segmenter row text ↔ ∃ field ∈ row.fieldTokens schema segmenter,
      ∃ token ∈ field.2, Term.ofText token.text = Term.ofText text := by
  simp only [ofText_inj]
  constructor
  · rintro ⟨i, hi, name, raw, tokens, htext, hraw, hok, htoken⟩
    obtain ⟨number, hmem⟩ :=
      (mem_fieldTokens_iff schema segmenter row tokens).mpr ⟨i, hi, name, raw, htext, hraw, hok⟩
    exact ⟨(number, tokens), hmem, htoken⟩
  · rintro ⟨⟨number, tokens⟩, hmem, htoken⟩
    obtain ⟨i, hi, name, raw, htext, hraw, hok⟩ :=
      (mem_fieldTokens_iff schema segmenter row tokens).mp ⟨number, hmem⟩
    exact ⟨i, hi, name, raw, tokens, htext, hraw, hok, htoken⟩

lemma document?_columnsOf (schema : Schema) (values : List Values) (n : Ordinal) :
    (columnsOf schema values).document? n = values[n.toNat]?.map fun v => ⟨n, v⟩ := by
  unfold AttributeStore.document?
  rw [documentCount_columnsOf]
  by_cases h : n.toNat < values.length
  · rw [if_pos h]
    simp [columnsOf, Column.record, h]
  · rw [if_neg h]
    simp [h]

/-- Whether a request asks for a row. Only the query, the filter and the row decide. -/
structure Answers (schema : Schema) (segmenter : Segmenter) (request : Request) (row : Row) : Prop where
  query : ∃ tokens, segmenter request.query = .ok tokens ∧ tokens ≠ [] ∧
    ∀ token ∈ tokens, HasToken schema segmenter row token.text
  filter : ∀ entry ∈ request.filter.entries, ∀ kind offset,
    (AttributeStore.ofSchema schema).resolve entry.1 = some (kind, offset) →
      ∃ value ∈ entry.2, (row.values schema).text? kind offset = some value

lemma forall_tokenTexts_iff (segmenter : Segmenter) (query : String) (P : String → Prop) :
    (tokenTexts segmenter query ≠ [] ∧ ∀ text ∈ tokenTexts segmenter query, P text) ↔
      ∃ tokens, segmenter query = .ok tokens ∧ tokens ≠ [] ∧ ∀ token ∈ tokens, P token.text := by
  unfold tokenTexts
  cases segmenter query with
  | error e => simp
  | ok tokens => simp

lemma isMatch_iff_answers {rows : List Row} {b : Builder} (h : Built schema segmenter rows b)
    (request : Request) (n : Ordinal) :
    IsMatch ⟨b.index.postings, b.index.attributes⟩ (tokenTexts segmenter request.query) request.filter n ↔
      ∃ row, rows[n.toNat]? = some row ∧ Answers schema segmenter request row := by
  have hposting : ∀ text, n ∈ ordinals (b.index.postings.items (Term.ofText text)) ↔
      ∃ row, rows[n.toNat]? = some row ∧ HasToken schema segmenter row text := by
    intro text
    rw [h.items, mem_ordinals_postingsAfter schema segmenter h.few]
    simp only [hasToken_iff]
  have hdocument : ∀ d, b.index.attributes.document? n = some d ↔
      ∃ row, rows[n.toNat]? = some row ∧ d = ⟨n, row.values schema⟩ := by
    intro d
    rw [h.attributes, document?_columnsOf, List.getElem?_map]
    cases rows[n.toNat]? <;> simp [eq_comm]
  unfold IsMatch
  simp only [LoadedIndex.postingsOf, LoadedIndex.document?, hposting, hdocument, admitsAll_resolve_iff]
  constructor
  · rintro ⟨hne, htexts, -, ⟨row, hrow, rfl⟩, hfilter⟩
    refine ⟨row, hrow, (forall_tokenTexts_iff segmenter request.query _).mp ⟨hne, ?_⟩, ?_⟩
    · intro text htext
      obtain ⟨row', hrow', htoken⟩ := htexts text htext
      rw [hrow] at hrow'
      obtain rfl := Option.some.inj hrow'
      exact htoken
    · rwa [h.attributes] at hfilter
  · rintro ⟨row, hrow, hquery, hfilter⟩
    obtain ⟨hne, htexts⟩ := (forall_tokenTexts_iff segmenter request.query _).mpr hquery
    refine ⟨hne, fun text htext => ⟨row, hrow, htexts text htext⟩, _, ⟨row, hrow, rfl⟩, ?_⟩
    rwa [h.attributes]

/-- An index that was built from rows can be searched, and a search counts the rows that the request
asks for, each once. -/
theorem search_built_finds_answers {rows : List Row} {built : Index}
    (hbuild : buildIndex schema segmenter (rows.map .ok) = .ok built) :
    ∃ index, LoadedIndex.ofIndex built = .ok index ∧ ∀ request : Request,
      ∃ M : List Ordinal, M.Pairwise (· < ·) ∧
        (∀ n, n ∈ M ↔ ∃ row, rows[n.toNat]? = some row ∧ Answers schema segmenter request row) ∧
        let r := Searcher.search ⟨index, segmenter⟩ request
        r.totalFound = M.length ∧
          r.documents = (M.drop request.offset.toNat).take request.limit.toNat := by
  obtain ⟨rows', b, hrows, hb, rfl⟩ := built_buildIndex hbuild
  obtain rfl := List.map_injective_iff.mpr (fun _ _ => Except.ok.inj) hrows
  have hconsistent := hb.consistent
  refine ⟨⟨b.index.postings, b.index.attributes⟩, assemble_eq_ok_iff.mpr ⟨hconsistent, rfl⟩, ?_⟩
  intro request
  refine ⟨_, pairwise_matchesOf hconsistent _ _, fun n => ?_, search_eq hconsistent segmenter request⟩
  rw [mem_matchesOf hconsistent]
  exact isMatch_iff_answers hb request n

/-- A text is one token, far from the start of the text. The text `bad` cannot be cut. -/
def wholeText : Segmenter := fun s => if s = "bad" then .error (.tokenizer s) else .ok [⟨s, 300⟩]

def animals : Schema where
  unsigned := ["legs"]
  text := ["notes", "name"]

/-- The notes on the first animal cannot be cut, and the second one has none. -/
def twoAnimals : List Row :=
  [[("name", "cat"), ("notes", "bad"), ("legs", "4")], [("name", "hen"), ("legs", "2")]]

theorem search_built_finds_answers_two_animals :
    ∃ built index, buildIndex animals wholeText (twoAnimals.map .ok) = .ok built ∧
      LoadedIndex.ofIndex built = .ok index ∧
      (Searcher.search ⟨index, wholeText⟩
        { query := "cat", filter := ⟨[("legs", ["4", "5"])]⟩ }).documents = [0] := by
  obtain ⟨built, hbuild⟩ : ∃ built, buildIndex animals wholeText (twoAnimals.map .ok) = .ok built :=
    ⟨_, rfl⟩
  obtain ⟨index, hload, hsearch⟩ := search_built_finds_answers hbuild
  obtain ⟨M, hsorted, hmem, -, hpage⟩ := hsearch { query := "cat", filter := ⟨[("legs", ["4", "5"])]⟩ }
  refine ⟨built, index, hbuild, hload, hpage.trans ?_⟩
  have hlegs : (AttributeStore.ofSchema animals).resolve "legs" = some (.unsigned, 0) := by decide
  have hanswers : ∀ n : Ordinal, n ∈ M ↔ n ∈ [(0 : Ordinal)] := by
    intro n
    rw [hmem, List.mem_singleton]
    constructor
    · rintro ⟨row, hrow, -, hfilter⟩
      obtain ⟨value, hvalue, htext⟩ := hfilter _ (List.mem_singleton_self _) _ _ hlegs
      match hn : n.toNat with
      | 0 => exact UInt32.toNat_inj.mp hn
      | 1 =>
        rw [hn] at hrow
        obtain rfl := Option.some.inj hrow
        have htwo : value = "2" := (Option.some.inj htext).symm
        rw [htwo] at hvalue
        exact absurd hvalue (by decide)
      | k + 2 =>
        rw [hn] at hrow
        exact absurd hrow (by simp [twoAnimals])
    · rintro rfl
      refine ⟨_, rfl, ⟨[⟨"cat", 300⟩], rfl, by simp, ?_⟩, ?_⟩
      · rw [List.forall_mem_singleton]
        exact ⟨1, by decide, "name", "cat", [⟨"cat", 300⟩], rfl, rfl, rfl, by simp⟩
      · rw [List.forall_mem_singleton]
        intro kind offset hplace
        obtain ⟨rfl, rfl⟩ := Prod.mk.inj (Option.some.inj (hlegs.symm.trans hplace))
        exact ⟨"4", by simp, by decide +kernel⟩
  rw [hsorted.eq_of_mem_iff (List.pairwise_singleton _ _) hanswers]
  rfl
end TextSearch.Proofs
