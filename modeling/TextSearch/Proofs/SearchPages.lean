import Mathlib.Data.List.Induction
import Mathlib.Data.List.Perm.Subperm
import Mathlib.Data.List.Sort
import TextSearch.Proofs.IntersectionRuns
import TextSearch.Proofs.LoadedIndexes
import TextSearch.Query.Search

/-!
# Pages of a search

A search counts every match and returns those whose places lie in the page. The matches are the
documents that have a posting for every token of the query and pass the filter.
-/

namespace TextSearch.Proofs

lemma collect_eq_foldl (index : LoadedIndex) (clauses : List Clause) (offset limit : UInt64)
    (i : Intersection) (t : Tally) :
    index.collect clauses offset limit i t =
      (i.toList.filter (index.admits clauses)).foldl (Tally.count offset limit) t := by
  fun_induction LoadedIndex.collect index clauses offset limit i t with
  | case1 i t j hn =>
    rw [toList_of_next_none hn]
    rfl
  | case2 i t j d hn ih =>
    simp only [dite_eq_ite] at ih
    rw [ih, toList_of_next_some hn, List.filter_cons]
    split <;> rfl

/-- Some items and then one more: the window grows if the place of the new one lies in it. -/
lemma window_concat {α : Type} (offset limit : Nat) (xs : List α) (x : α) :
    ((xs ++ [x]).drop offset).take limit =
      if offset ≤ xs.length ∧ xs.length < offset + limit then (xs.drop offset).take limit ++ [x]
      else (xs.drop offset).take limit := by
  have hlen : (xs.drop offset).length = xs.length - offset := List.length_drop
  have hlen' : (xs ++ [x]).length = xs.length + 1 := by simp
  by_cases ho : offset ≤ xs.length
  · rw [List.drop_append_of_le_length ho]
    by_cases hl : xs.length < offset + limit
    · have hall : (xs.drop offset ++ [x]).length ≤ limit := by
        rw [List.length_append, hlen, List.length_singleton]
        omega
      rw [if_pos ⟨ho, hl⟩, List.take_of_length_le hall, List.take_of_length_le (by omega)]
    · rw [if_neg fun h => hl h.2, List.take_append_of_le_length (by omega)]
  · rw [if_neg fun h => ho h.1, List.drop_eq_nil_of_le (by omega), List.drop_eq_nil_of_le (by omega)]

/-- Counting documents one by one, the page is always the window of those counted so far. The end of a
page may be cut to the largest word, but there are never as many documents. -/
lemma count_foldl (offset limit : UInt64) {found : List Ordinal}
    (hlen : found.length < UInt64.size) :
    (found.foldl (Tally.count offset limit) {}).total = found.length ∧
      (found.foldl (Tally.count offset limit) {}).documents.toList =
        (found.drop offset.toNat).take limit.toNat := by
  induction found using List.reverseRecOn with
  | nil => simp
  | append_singleton found d ih =>
    rw [List.length_append, List.length_singleton] at hlen
    obtain ⟨htotal, hdocuments⟩ := ih (by omega)
    rw [List.foldl_append, List.foldl_cons, List.foldl_nil, window_concat, ← hdocuments]
    refine ⟨by simp [Tally.count, htotal], ?_⟩
    have hend : found.length < pageEnd offset limit ↔
        found.length < offset.toNat + limit.toNat := by
      unfold pageEnd
      omega
    simp only [Tally.count, htotal, Bool.and_eq_true, decide_eq_true_eq, hend]
    split <;> simp

lemma length_le_of_pairwise_lt {found : List Ordinal} (h : found.Pairwise (· < ·)) :
    found.length ≤ UInt32.size := by
  have hnodup : (found.map UInt32.toNat).Nodup := by
    rw [List.Nodup, List.pairwise_map]
    exact h.imp fun hlt => (UInt32.lt_iff_toNat_lt.mp hlt).ne
  have hsub : found.map UInt32.toNat ⊆ List.range UInt32.size := by
    intro n hn
    obtain ⟨d, -, rfl⟩ := List.mem_map.mp hn
    exact List.mem_range.mpr d.toNat_lt
  have hle := (hnodup.subperm hsub).length_le
  rwa [List.length_map, List.length_range] at hle

/-- The texts of the tokens of a query. A query that cannot be cut has none. -/
def tokenTexts (segmenter : Segmenter) (query : String) : List String :=
  match segmenter query with
  | .ok tokens => tokens.map Token.text
  | .error _ => []

lemma map_text_segment (s : Searcher) (query : String) :
    (s.segment query).map Token.text = tokenTexts s.segmenter query := by
  unfold Searcher.segment tokenTexts
  cases s.segmenter query with
  | ok tokens => rfl
  | error e => rfl

/-- Whether a document has a posting for each of some texts and passes a filter. -/
def IsMatch (index : LoadedIndex) (texts : List String) (filter : Filter) (n : Ordinal) : Prop :=
  texts ≠ [] ∧ (∀ text ∈ texts, n ∈ ordinals (index.postingsOf (Term.ofText text))) ∧
    ∃ d, index.document? n = some d ∧ admitsAll (filter.resolve index.attributes) d = true

def matchesOf (index : LoadedIndex) (texts : List String) (filter : Filter) : List Ordinal :=
  (Intersection.ofTerms index (texts.map Term.ofText)).toList.filter
    (index.admits (filter.resolve index.attributes))

lemma enumerable_ofTerms {index : LoadedIndex} (h : Consistent index.postings index.attributes)
    (terms : List Term) : Enumerable (Intersection.ofTerms index terms) := by
  apply enumerable_ofLists
  intro ps hps
  obtain ⟨term, -, rfl⟩ := List.mem_map.mp hps
  exact h.ascending term

lemma mem_matchesOf {index : LoadedIndex} (h : Consistent index.postings index.attributes)
    (texts : List String) (filter : Filter) (n : Ordinal) :
    n ∈ matchesOf index texts filter ↔ IsMatch index texts filter n := by
  have hshared : n ∈ pending (Intersection.ofTerms index (texts.map Term.ofText)) ↔
      texts ≠ [] ∧ ∀ text ∈ texts, n ∈ ordinals (index.postingsOf (Term.ofText text)) := by
    unfold Intersection.ofTerms
    simp [pending_ofLists]
  have hadmits : index.admits (filter.resolve index.attributes) n = true ↔
      ∃ d, index.document? n = some d ∧ admitsAll (filter.resolve index.attributes) d = true := by
    unfold LoadedIndex.admits
    rw [Option.any_eq_true]
  rw [matchesOf, List.mem_filter, mem_toList (enumerable_ofTerms h _), hshared, hadmits, and_assoc,
    IsMatch]

lemma pairwise_matchesOf {index : LoadedIndex} (h : Consistent index.postings index.attributes)
    (texts : List String) (filter : Filter) : (matchesOf index texts filter).Pairwise (· < ·) :=
  (pairwise_toList (enumerable_ofTerms h _)).filter _

/-- The outcome of a search is the number of its matches and a window of them. -/
lemma search_eq {index : LoadedIndex} (h : Consistent index.postings index.attributes)
    (segmenter : Segmenter) (request : Request) :
    let found := matchesOf index (tokenTexts segmenter request.query) request.filter
    (Searcher.search ⟨index, segmenter⟩ request).totalFound = found.length ∧
      (Searcher.search ⟨index, segmenter⟩ request).documents =
        (found.drop request.offset.toNat).take request.limit.toNat := by
  intro found
  have hlen : found.length < UInt64.size := by
    have hle := length_le_of_pairwise_lt (pairwise_matchesOf h (tokenTexts segmenter request.query)
      request.filter)
    exact Nat.lt_of_le_of_lt hle (by decide)
  unfold Searcher.search
  simp only [map_text_segment, collect_eq_foldl]
  exact count_foldl request.offset request.limit hlen

end TextSearch.Proofs
