import Mathlib.Tactic.Lemma
import TextSearch.Index.Stored
import TextSearch.Proofs.InterleavedCalls
import TextSearch.Proofs.SearchPages

/-!
# What loading checks

Loading accepts exactly the indexes whose columns agree and whose posting lists are in order, in whatever
order it looks at the lists. That is enough: whatever an intersection finds in an index that was accepted
is a document, so a search never looks for one in vain.
-/

namespace TextSearch.Proofs
open Storage

/-- The checks of a load, with the posting lists in some order. -/
def checkParts (records : List (Term × PostingList)) (attributes : AttributeStore) :
    Except SearchError Unit := do
  let count ← attributes.validate
  records.forM fun record => LoadedIndex.checkPostings count record.1 none record.2

lemma assemble_eq_checkParts (postings : PostingIndex) (attributes : AttributeStore) :
    LoadedIndex.assemble postings attributes =
      checkParts postings.entries attributes >>= fun _ => .ok ⟨postings, attributes⟩ := by
  unfold LoadedIndex.assemble checkParts
  cases attributes.validate <;> rfl

/-! ### Which parts are accepted -/

lemma checkParts_eq_ok_iff {records : List (Term × PostingList)} {attributes : AttributeStore} :
    checkParts records attributes = .ok () ↔
      (∀ kind, attributes.columnLength kind = attributes.documentCount) ∧
        ∀ record ∈ records, Ascending record.2 ∧ Within attributes.documentCount record.2 := by
  have hlist : ∀ record : Term × PostingList, LoadedIndex.checkPostings attributes.documentCount
      record.1 none record.2 = .ok () ↔
        Ascending record.2 ∧ Within attributes.documentCount record.2 := by
    intro record
    rw [checkPostings_eq_ok_iff]
    simp [and_comm]
  unfold checkParts
  simp only [bind_eq_ok_iff, validate_eq_ok_iff]
  constructor
  · rintro ⟨_, ⟨hcolumns, rfl⟩, hall⟩
    exact ⟨hcolumns, fun record hrecord => (hlist record).mp (forM_eq_ok_iff.mp hall record hrecord)⟩
  · rintro ⟨hcolumns, hall⟩
    exact ⟨_, ⟨hcolumns, rfl⟩,
      forM_eq_ok_iff.mpr fun record hrecord => (hlist record).mpr (hall record hrecord)⟩

lemma exists_assemble_iff {postings : PostingIndex} {attributes : AttributeStore} :
    (∃ index, LoadedIndex.assemble postings attributes = .ok index) ↔
      checkParts postings.entries attributes = .ok () := by
  rw [assemble_eq_checkParts]
  simp only [bind_eq_ok_iff]
  constructor
  · rintro ⟨-, ⟨⟩, hchecked, -⟩
    exact hchecked
  · intro hchecked
    exact ⟨_, (), hchecked, rfl⟩

/-- The order of the lists does not matter. -/
lemma checkParts_perm {records others : List (Term × PostingList)} (h : records.Perm others)
    (attributes : AttributeStore) :
    checkParts records attributes = .ok () ↔ checkParts others attributes = .ok () := by
  simp only [checkParts_eq_ok_iff, h.mem_iff]

lemma isLoadError_of_checkPostings {count : Nat} {term : Term} {previous : Option Ordinal}
    {ps : PostingList} {e : SearchError}
    (h : LoadedIndex.checkPostings count term previous ps = .error e) : e.isLoadError = true := by
  induction ps generalizing previous with
  | nil => exact absurd h (by simp [LoadedIndex.checkPostings])
  | cons p ps ih =>
    rw [LoadedIndex.checkPostings] at h
    split at h
    · obtain rfl := Except.error.inj h
      rfl
    · split at h
      · obtain rfl := Except.error.inj h
        rfl
      · exact ih h

lemma isLoadError_of_validate {attributes : AttributeStore} {e : SearchError}
    (h : attributes.validate = .error e) : e.isLoadError = true := by
  rcases bind_eq_error_iff.mp h with hcheck | ⟨⟨⟩, -, hcount⟩
  · obtain ⟨kind, -, hlength⟩ := exists_of_forM_eq_error hcheck
    unfold AttributeStore.checkLength at hlength
    split at hlength
    · exact absurd hlength (by simp)
    · obtain rfl := Except.error.inj hlength
      rfl
  · exact absurd hcount (by simp [pure, Except.pure])

lemma isLoadError_of_checkParts {records : List (Term × PostingList)} {attributes : AttributeStore}
    {e : SearchError} (h : checkParts records attributes = .error e) : e.isLoadError = true := by
  rcases bind_eq_error_iff.mp h with hvalidate | ⟨count, -, hlists⟩
  · exact isLoadError_of_validate hvalidate
  · obtain ⟨record, -, hrecord⟩ := exists_of_forM_eq_error hlists
    exact isLoadError_of_checkPostings hrecord

lemma isLoadError_of_assemble {postings : PostingIndex} {attributes : AttributeStore} {e : SearchError}
    (h : LoadedIndex.assemble postings attributes = .error e) : e.isLoadError = true := by
  rw [assemble_eq_checkParts] at h
  rcases bind_eq_error_iff.mp h with hchecked | ⟨⟨⟩, -, hindex⟩
  · exact isLoadError_of_checkParts hchecked
  · exact absurd hindex (by simp)

/-! ### What is accepted is complete -/

/-- Whether a document shows the record that each column has for an ordinal. -/
structure Shows (attributes : AttributeStore) (n : Ordinal) (d : Document) : Prop where
  ordinal : d.ordinal = n
  unsigned : attributes.unsigned[n.toNat]? = some d.values.unsigned
  float : attributes.float[n.toNat]? = some d.values.float
  multi : attributes.multi[n.toNat]? = some d.values.multi
  string : attributes.string[n.toNat]? = some d.values.string

lemma getElem?_eq_record {α : Type} {column : Column α} {n : Ordinal} (h : n.toNat < column.size) :
    column[n.toNat]? = some (column.record n) := by
  rw [Column.record, Array.getElem?_eq_getElem h, Option.getD_some]

lemma exists_document {attributes : AttributeStore} {n : Ordinal}
    (hcolumns : ∀ kind, attributes.columnLength kind = attributes.documentCount)
    (hn : n.toNat < attributes.documentCount) :
    ∃ d, attributes.document? n = some d ∧ Shows attributes n d := by
  have hlength : ∀ kind, n.toNat < attributes.columnLength kind := fun kind => by
    rw [hcolumns kind]
    exact hn
  refine ⟨_, if_pos hn, rfl, ?_, ?_, ?_, ?_⟩
  · exact getElem?_eq_record (hlength .unsigned)
  · exact getElem?_eq_record (hlength .float)
  · exact getElem?_eq_record (hlength .multi)
  · exact getElem?_eq_record (hlength .string)

lemma lists_ne_nil_of_found {i : Intersection} {call : Call} {d : Ordinal}
    (h : (call.run i).2 = some d) : listsOf i.cursors ≠ [] := by
  intro hnil
  have hcursors : i.cursors = [] := List.map_eq_nil_iff.mp hnil
  have hseek : ∀ id, (i.seek id).2 = none := fun id => by
    rw [Intersection.seek, hcursors]
    rfl
  cases call with
  | seek id => exact absurd h (by simp [Call.run, hseek])
  | next =>
    rw [Call.run, Intersection.next] at h
    cases hu : i.upcoming with
    | none => simp [hu] at h
    | some id => simp [hu, hseek] at h

lemma exists_document_of_shared {index : LoadedIndex}
    (h : Consistent index.postings index.attributes) {terms : List Term} {n : Ordinal}
    (hne : terms.map index.postingsOf ≠ []) (hn : ∀ ps ∈ terms.map index.postingsOf, n ∈ ordinals ps) :
    ∃ d, index.document? n = some d ∧ Shows index.attributes n d := by
  obtain ⟨ps, hps⟩ := List.exists_mem_of_ne_nil _ hne
  obtain ⟨term, -, rfl⟩ := List.mem_map.mp hps
  obtain ⟨p, hp, rfl⟩ := List.mem_map.mp (hn _ hps)
  exact exists_document h.columns (h.within term p hp)

/-- What is found in the lists of some terms is a document. -/
lemma exists_document_of_found {index : LoadedIndex}
    (h : Consistent index.postings index.attributes) (terms : List Term) (history : List Call)
    {call : Call} {n : Ordinal}
    (hfound : (call.run (after (Intersection.ofTerms index terms) history)).2 = some n) :
    ∃ d, index.document? n = some d ∧ Shows index.attributes n d := by
  have hlists : listsOf (after (Intersection.ofTerms index terms) history).cursors =
      terms.map index.postingsOf := by
    rw [listsOf_after, Intersection.ofTerms, listsOf_ofLists]
  have hshared := mem_ordinals_of_found (enumerable_after (enumerable_ofTerms h terms) history) hfound
  have hne := lists_ne_nil_of_found hfound
  rw [hlists] at hshared hne
  exact exists_document_of_shared h hne hshared

/-- Goes on like `LoadedIndex.collect`, but gives up at an ordinal that no document has. -/
def collectStrictly (index : LoadedIndex) (clauses : List Clause) (offset limit : UInt64)
    (i : Intersection) (t : Tally) : Option Tally :=
  match _h : i.next with
  | (_, none) => some t
  | (j, some ordinal) =>
    match index.document? ordinal with
    | none => none
    | some d =>
      collectStrictly index clauses offset limit j
        (if admitsAll clauses d then t.count offset limit ordinal else t)
termination_by i.remaining
decreasing_by exact Intersection.remaining_next_lt _h

lemma collectStrictly_eq {index : LoadedIndex} {clauses : List Clause} {offset limit : UInt64}
    {i : Intersection} {t : Tally} (h : ∀ n ∈ i.toList, ∃ d, index.document? n = some d) :
    collectStrictly index clauses offset limit i t =
      some (index.collect clauses offset limit i t) := by
  fun_induction collectStrictly index clauses offset limit i t with
  | case1 i t j hn =>
    rw [collect_eq_foldl, toList_of_next_none hn]
    rfl
  | case2 i t j n hn hmissing =>
    obtain ⟨d, hd⟩ := h n (by rw [toList_of_next_some hn]; exact List.mem_cons_self)
    exact absurd (hmissing.symm.trans hd) (by simp)
  | case3 i t j n hn d hd ih =>
    have hadmits : index.admits clauses n = admitsAll clauses d := by
      rw [LoadedIndex.admits, hd, Option.any_some]
    simp only [dite_eq_ite] at ih
    rw [toList_of_next_some hn] at h
    rw [ih fun m hm => h m (List.mem_cons_of_mem n hm), collect_eq_foldl, collect_eq_foldl,
      toList_of_next_some hn, List.filter_cons, hadmits]
    split <;> rfl

/-- An index whose intersections name documents only, so that a search that gives up at a missing document
never does. -/
structure NamesDocuments (index : LoadedIndex) : Prop where
  found : ∀ (terms : List Term) (history : List Call) (call : Call) (n : Ordinal),
    (call.run (after (Intersection.ofTerms index terms) history)).2 = some n →
      ∃ d, index.document? n = some d ∧ Shows index.attributes n d
  never_missing : ∀ (terms : List Term) (clauses : List Clause) (offset limit : UInt64) (t : Tally),
    collectStrictly index clauses offset limit (Intersection.ofTerms index terms) t =
      some (index.collect clauses offset limit (Intersection.ofTerms index terms) t)

lemma namesDocuments_of_consistent {index : LoadedIndex}
    (h : Consistent index.postings index.attributes) : NamesDocuments index where
  found terms history _ _ hfound := exists_document_of_found h terms history hfound
  never_missing terms clauses offset limit t := by
    refine collectStrictly_eq fun n hn => ?_
    have hpending := (mem_toList (enumerable_ofTerms h terms) n).mp hn
    rw [Intersection.ofTerms, pending_ofLists] at hpending
    obtain ⟨d, hd, -⟩ := exists_document_of_shared h hpending.1 hpending.2
    exact ⟨d, hd⟩

lemma exists_of_run_bind {ε α β : Type} {x : ExceptT ε Id α} {f : α → ExceptT ε Id β} {b : β}
    (h : (x >>= f).run = .ok b) : ∃ a, (f a).run = .ok b := by
  rw [ExceptT.run_bind] at h
  cases hx : x.run with
  | error e =>
    rw [hx] at h
    exact absurd h (by simp [pure])
  | ok a =>
    rw [hx] at h
    exact ⟨a, h⟩

lemma exists_assemble_of_load {access : FileAccess Id} {location : Location} {index : LoadedIndex}
    (h : (load access location).run = .ok index) :
    ∃ postings attributes, LoadedIndex.assemble postings attributes = .ok index := by
  obtain ⟨postings, h⟩ := exists_of_run_bind h
  obtain ⟨attributes, h⟩ := exists_of_run_bind h
  exact ⟨postings, attributes, h⟩

/-- Postings and attributes make an index if and only if all columns have one length and every posting
list is ascending and stays below it, in whatever order the lists are looked at. What is refused is
refused with an error of loading. Every document that is found in an index that was made so, or loaded from
any files, exists, and its values are the records of its ordinal; so no search comes to a missing one. -/
theorem loading_checks_suffice (postings : PostingIndex) (attributes : AttributeStore) :
    ((∃ index, LoadedIndex.assemble postings attributes = .ok index) ↔
      ∃ count, (∀ kind, attributes.columnLength kind = count) ∧
        ∀ record ∈ postings.entries, Ascending record.2 ∧ Within count record.2) ∧
    (∀ records, records.Perm postings.entries →
      (checkParts records attributes = .ok () ↔
        ∃ index, LoadedIndex.assemble postings attributes = .ok index) ∧
      ∀ e, checkParts records attributes = .error e → e.isLoadError = true) ∧
    (∀ e, LoadedIndex.assemble postings attributes = .error e → e.isLoadError = true) ∧
    (∀ index, LoadedIndex.assemble postings attributes = .ok index → NamesDocuments index) ∧
    ∀ (access : FileAccess Id) (location : Location) (index : LoadedIndex),
      (load access location).run = .ok index → NamesDocuments index := by
  have haccepted : ∀ {postings attributes index},
      LoadedIndex.assemble postings attributes = .ok index → NamesDocuments index := by
    intro postings attributes index hindex
    obtain ⟨h, rfl⟩ := assemble_eq_ok_iff.mp hindex
    exact namesDocuments_of_consistent h
  refine ⟨?_, fun records horder => ⟨?_, fun e => isLoadError_of_checkParts⟩,
    fun e => isLoadError_of_assemble, fun index => haccepted, ?_⟩
  · rw [exists_assemble_iff, checkParts_eq_ok_iff]
    constructor
    · rintro ⟨hcolumns, hlists⟩
      exact ⟨attributes.documentCount, hcolumns, hlists⟩
    · rintro ⟨count, hcolumns, hlists⟩
      have hcount : attributes.documentCount = count := hcolumns .unsigned
      rw [hcount]
      exact ⟨hcolumns, hlists⟩
  · rw [exists_assemble_iff]
    exact checkParts_perm horder attributes
  · intro access location index hload
    obtain ⟨postings, attributes, hindex⟩ := exists_assemble_of_load hload
    exact haccepted hindex

/-- Two documents, the second of them with two postings of one term. -/
def twoDocuments : LoadedIndex where
  postings := Multimap.empty.addAll ⟨7, "a"⟩ [⟨0, []⟩, ⟨1, []⟩, ⟨1, []⟩]
  attributes :=
    { unsigned := #[[4], [2]], float := #[[], []], multi := #[[], [3]], string := #[[], []] }

def twoDocumentFiles : FileAccess Id where
  read path :=
    if path = "t.lci" then
      .ok [7, 0, 0, 0, 0, 0, 0, 0, 1, 0, 0, 0, 0x61, 3, 0, 0, 0,
        0, 0, 0, 0, 0, 1, 0, 0, 0, 0, 1, 0, 0, 0, 0]
    else if path = "t.lcu" then .ok [2, 0, 0, 0, 0, 1, 4, 0, 0, 0, 1, 2, 0, 0, 0]
    else if path = "t.lcm" then .ok [2, 0, 0, 0, 0, 0, 1, 3, 0, 0, 0]
    else .ok [2, 0, 0, 0, 0, 0, 0]
  write _ _ := .ok ()

lemma load_twoDocumentFiles : (load twoDocumentFiles ⟨"t", ""⟩).run = .ok twoDocuments := by
  -- field by field, as stores cannot be compared by evaluation
  obtain ⟨index, hload, hentries⟩ : ∃ index, (load twoDocumentFiles ⟨"t", ""⟩).run = .ok index ∧
      index.postings.entries = twoDocuments.postings.entries := map_eq_ok_iff.mp (by decide +kernel)
  have hfield : ∀ {α : Type} (field : LoadedIndex → α),
      (load twoDocumentFiles ⟨"t", ""⟩).run.map field = .ok (field twoDocuments) → field index = field twoDocuments := by
    intro α field h
    rw [hload] at h
    exact Except.ok.inj h
  have hnames := hfield (fun index => Kind.all.map index.attributes.names) (by decide +kernel)
  have hunsigned := hfield (fun index => index.attributes.unsigned) (by decide +kernel)
  have hfloat := hfield (fun index => index.attributes.float) (by decide +kernel)
  have hmulti := hfield (fun index => index.attributes.multi) (by decide +kernel)
  have hstring := hfield (fun index => index.attributes.string) (by decide +kernel)
  obtain ⟨postings, names, unsigned, float, multi, string⟩ := index
  obtain rfl : postings = twoDocuments.postings := Multimap.ext_entries hentries
  obtain rfl : names = twoDocuments.attributes.names :=
    funext fun kind => List.map_inj_left.mp hnames kind (Kind.mem_all kind)
  subst hunsigned hfloat hmulti hstring
  exact hload

theorem loading_checks_suffice_two_documents :
    (load twoDocumentFiles ⟨"t", ""⟩).run = .ok twoDocuments ∧
      (∃ index, LoadedIndex.assemble twoDocuments.postings twoDocuments.attributes = .ok index) ∧
      ((Call.seek 1).run (Intersection.ofTerms twoDocuments [⟨7, "a"⟩, ⟨7, "a"⟩])).2 = some 1 ∧
      ∃ d, twoDocuments.document? 1 = some d ∧ Shows twoDocuments.attributes 1 d := by
  obtain ⟨haccepts, -, -, -, hloaded⟩ :=
    loading_checks_suffice twoDocuments.postings twoDocuments.attributes
  have hassemble : ∃ index,
      LoadedIndex.assemble twoDocuments.postings twoDocuments.attributes = .ok index := by
    refine haccepts.mpr ⟨2, fun kind => by cases kind <;> rfl, ?_⟩
    have hentries : twoDocuments.postings.entries = [(⟨7, "a"⟩, [⟨0, []⟩, ⟨1, []⟩, ⟨1, []⟩])] := by
      decide +kernel
    rw [hentries]
    decide
  have hfound : ((Call.seek 1).run
      (Intersection.ofTerms twoDocuments [⟨7, "a"⟩, ⟨7, "a"⟩])).2 = some 1 := by
    decide +kernel
  have hnames := hloaded twoDocumentFiles ⟨"t", ""⟩ twoDocuments load_twoDocumentFiles
  exact ⟨load_twoDocumentFiles, hassemble, hfound, hnames.found _ [] _ 1 hfound⟩

end TextSearch.Proofs
