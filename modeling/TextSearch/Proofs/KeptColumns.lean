import TextSearch.Proofs.AttributeFiles
import TextSearch.Proofs.SearchPages
import TextSearch.Reply.Format

/-!
# Columns with what is kept of them

A stored record keeps as many values as a byte counts. Names beyond these do not exist where there are
at most 255 of a kind, so neither a filter nor a reply comes to a value that was lost.
-/

namespace TextSearch.Proofs
open Storage

def keptValues (v : Values) : Values where
  unsigned := capped v.unsigned
  float := capped v.float
  multi := capped v.multi
  string := capped v.string

def keptStore (a : AttributeStore) : AttributeStore where
  names kind := capped (a.names kind)
  unsigned := a.unsigned.map capped
  float := a.float.map capped
  multi := a.multi.map capped
  string := a.string.map capped

@[simp] lemma columnLength_keptStore (a : AttributeStore) (kind : Kind) :
    (keptStore a).columnLength kind = a.columnLength kind := by
  cases kind <;> simp [keptStore, AttributeStore.columnLength]

@[simp] lemma documentCount_keptStore (a : AttributeStore) :
    (keptStore a).documentCount = a.documentCount :=
  columnLength_keptStore a .unsigned

/-! ### Places and values -/

lemma names_keptStore {a : AttributeStore} (hnames : ∀ kind, (a.names kind).length ≤ 255) :
    (keptStore a).names = a.names :=
  funext fun kind => List.take_of_length_le (hnames kind)

lemma resolve_keptStore {a : AttributeStore} (hnames : ∀ kind, (a.names kind).length ≤ 255)
    (name : String) : (keptStore a).resolve name = a.resolve name := by
  unfold AttributeStore.resolve
  rw [names_keptStore hnames]

lemma lt_of_resolve {a : AttributeStore} {name : String} {kind : Kind} {offset : Nat}
    (h : a.resolve name = some (kind, offset)) : offset < (a.names kind).length := by
  obtain ⟨k, -, hk⟩ := List.exists_of_findSome?_eq_some h
  obtain ⟨o, ho, hplace⟩ := Option.map_eq_some_iff.mp hk
  obtain ⟨rfl, rfl⟩ := Prod.mk.inj hplace
  exact (List.idxOf?_eq_some_iff.mp ho).1

lemma record_map_capped {α : Type} (column : Column α) (n : Ordinal) :
    Column.record (column.map capped) n = capped (column.record n) := by
  unfold Column.record
  rw [Array.getElem?_map]
  cases column[n.toNat]? <;> rfl

lemma document?_keptStore (a : AttributeStore) (n : Ordinal) :
    (keptStore a).document? n = (a.document? n).map fun d => ⟨d.ordinal, keptValues d.values⟩ := by
  unfold AttributeStore.document?
  rw [documentCount_keptStore]
  by_cases h : n.toNat < a.documentCount
  · rw [if_pos h, if_pos h]
    simp only [keptStore, record_map_capped, Option.map_some, keptValues]
  · rw [if_neg h, if_neg h]
    rfl

lemma getElem?_capped {α : Type} (values : List α) {offset : Nat} (h : offset < 255) :
    (capped values)[offset]? = values[offset]? := by
  rw [capped, List.getElem?_take, if_pos h]

lemma text?_keptValues (v : Values) (kind : Kind) {offset : Nat} (h : offset < 255) :
    (keptValues v).text? kind offset = v.text? kind offset := by
  cases kind <;> simp only [Values.text?, keptValues, getElem?_capped _ h]

/-! ### Searches and replies -/

lemma admitsAll_keptValues {clauses : List Clause} (h : ∀ c ∈ clauses, c.offset < 255) (d : Document) :
    admitsAll clauses ⟨d.ordinal, keptValues d.values⟩ = admitsAll clauses d := by
  unfold admitsAll
  rw [Bool.eq_iff_iff, List.all_eq_true, List.all_eq_true]
  refine forall₂_congr fun c hc => ?_
  rw [Clause.admits, Clause.admits, text?_keptValues d.values c.kind (h c hc)]

lemma resolve_filter_keptStore {a : AttributeStore} (hnames : ∀ kind, (a.names kind).length ≤ 255)
    (filter : Filter) : filter.resolve (keptStore a) = filter.resolve a := by
  unfold Filter.resolve
  simp only [resolve_keptStore hnames]

lemma offset_lt_of_mem_resolve {a : AttributeStore} (hnames : ∀ kind, (a.names kind).length ≤ 255)
    {filter : Filter} {c : Clause} (hc : c ∈ filter.resolve a) : c.offset < 255 := by
  obtain ⟨entry, -, hentry⟩ := List.mem_filterMap.mp hc
  obtain ⟨place, hplace, rfl⟩ := Option.map_eq_some_iff.mp hentry
  exact Nat.lt_of_lt_of_le (lt_of_resolve hplace) (hnames place.1)

lemma search_keptStore (postings : PostingIndex) {a : AttributeStore}
    (hnames : ∀ kind, (a.names kind).length ≤ 255) (segmenter : Segmenter) (request : Request) :
    Searcher.search ⟨⟨postings, keptStore a⟩, segmenter⟩ request =
      Searcher.search ⟨⟨postings, a⟩, segmenter⟩ request := by
  have hadmits : LoadedIndex.admits ⟨postings, keptStore a⟩ (request.filter.resolve a) =
      LoadedIndex.admits ⟨postings, a⟩ (request.filter.resolve a) := by
    funext n
    unfold LoadedIndex.admits LoadedIndex.document?
    rw [document?_keptStore]
    cases a.document? n with
    | none => rfl
    | some d =>
      -- The values that were lost stand at places that no clause names.
      exact admitsAll_keptValues (fun c hc => offset_lt_of_mem_resolve hnames hc) d
  unfold Searcher.search
  simp only [resolve_filter_keptStore hnames, collect_eq_foldl, hadmits]
  rfl

lemma named_capped {α : Type} {names : List String} (hnames : names.length ≤ 255) (values : List α)
    (f : α → Reply.FieldValue) : Reply.named names (capped values) f = Reply.named names values f := by
  have hlen : (names.zip (values.map f)).length ≤ 255 := by
    rw [List.length_zip]
    omega
  calc names.zip ((values.take 255).map f)
      = (names.take 255).zip ((values.map f).take 255) := by
        rw [List.take_of_length_le hnames, List.map_take]
    _ = (names.zip (values.map f)).take 255 := List.take_zipWith.symm
    _ = names.zip (values.map f) := List.take_of_length_le hlen

lemma render_keptStore {a : AttributeStore} (hnames : ∀ kind, (a.names kind).length ≤ 255)
    (format : ReplyFormat) (packCost : Nat) (response : Response) :
    format.render packCost (keptStore a) response = format.render packCost a response := by
  have hproject : Reply.project (keptStore a) = Reply.project a := by
    funext n
    unfold Reply.project
    rw [names_keptStore hnames]
    simp only [keptStore, record_map_capped, named_capped (hnames _)]
  unfold ReplyFormat.render
  rw [hproject]

end TextSearch.Proofs
