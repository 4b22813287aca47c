import TextSearch.Index.Stored
import TextSearch.Proofs.BuilderRuns
import TextSearch.Proofs.IndexFiles
import TextSearch.Proofs.KeptColumns
import TextSearch.Proofs.SavedFiles

/-!
# Searching what was stored

An index that was built and saved can be loaded, and nobody who searches it can tell that values were lost:
the replies are those of the index that was built.
-/

namespace TextSearch.Proofs
open Storage

/-- Columns whose counts and texts fit into four bytes. -/
structure FitsColumns (a : AttributeStore) : Prop where
  few : a.documentCount < UInt32.size
  names : ∀ kind, ∀ name ∈ a.names kind, Utf8.size name < UInt32.size
  texts : ∀ record ∈ a.string.toList, ∀ s ∈ record, Utf8.size s < UInt32.size

section Loading

variable {disk : Disk} {location : Location} {index : Index}

/-- Whether the files at a location are those of an index. The records of the terms may stand in any
order. -/
structure Holds (disk : Disk) (location : Location) (index : Index) : Prop where
  postings : ∃ records, records.Perm index.postings.entries ∧
    disk.read location.indexFile = .ok (encodeRecords records)
  columns : ∀ kind, disk.read (location.columnFile kind) = .ok (encodeAttributes index.attributes kind)

lemma holds_of_save {after : Disk} {records : List (Term × PostingList)}
    (hrecords : records.Perm index.postings.entries)
    (h : (save Disk.access location index records).run disk = (.ok (), after)) :
    Holds after location index := by
  have hread := read_of_save h
  rw [filesOf, List.forall_mem_cons, List.forall_mem_map] at hread
  obtain ⟨hpostings, hcolumns⟩ := hread
  exact ⟨⟨records, hrecords, hpostings⟩, fun kind => hcolumns kind (Kind.mem_all kind)⟩

/-- Whether an action on a disk gives a value and leaves the disk as it is. -/
def Finds {α : Type} (disk : Disk) (action : ExceptT SearchError (StateM Disk) α) (x : α) : Prop :=
  action.run.run disk = (.ok x, disk)

section Finds

variable {α β : Type}

lemma Finds.bind {action : ExceptT SearchError (StateM Disk) α} {next : α → ExceptT SearchError (StateM Disk) β}
    {x : α} {y : β} (h : Finds disk action x) (hnext : Finds disk (next x) y) : Finds disk (action >>= next) y := by
  unfold Finds at *
  rw [ExceptT.run_bind, StateT.run_bind, h]
  exact hnext

lemma finds_lift {result : Except SearchError α} {x : α} (h : result = .ok x) :
    Finds disk (liftM result) x := by
  rw [h]
  rfl

lemma finds_fetch {path : String} {bytes : List UInt8} {decode : String → List UInt8 → Except SearchError α}
    {x : α} (hread : disk.read path = .ok bytes) (hdecode : decode path bytes = .ok x) :
    Finds disk (fetch Disk.access decode path) x := by
  have hrun : (Disk.access.read path).run disk = (.ok bytes, disk) := by
    rw [← hread]
    rfl
  have hfound : Finds disk (liftM (Disk.access.read path)) (.ok bytes) := by
    unfold Finds
    rw [ExceptT.run_liftM, StateT.run_map, hrun]
    rfl
  exact hfound.bind (finds_lift hdecode)

end Finds

lemma checkLength_capped {α β : Type} {column : Column α} {other : Column β} {kind : Kind}
    (h : other.size = column.size) :
    AttributeStore.checkLength kind (column.map capped).size (other.map capped).size = .ok () := by
  rw [Array.size_map, Array.size_map]
  exact if_pos h

lemma finds_loadAttributes (hholds : Holds disk location index) (hfits : FitsColumns index.attributes)
    (hcolumns : ∀ kind, index.attributes.columnLength kind = index.attributes.documentCount) :
    Finds disk (loadAttributes Disk.access location) (keptStore index.attributes) := by
  have hnames : ∀ kind, ∀ s ∈ capped (index.attributes.names kind), Utf8.size s < UInt32.size :=
    fun kind s hs => hfits.names kind s (List.mem_of_mem_take hs)
  have hcount : ∀ kind, index.attributes.columnLength kind < UInt32.size := by
    intro kind
    rw [hcolumns]
    exact hfits.few
  have hunsigned := finds_fetch (hholds.columns .unsigned) (decodeColumn_encodeColumn (hcount .unsigned)
    (hnames .unsigned) (fun record _ => reads_values reads_word32 record) _)
  have hfloat := finds_fetch (hholds.columns .float) (decodeColumn_encodeColumn (hcount .float)
    (hnames .float) (fun record _ => reads_values reads_single record) _)
  have hmulti := finds_fetch (hholds.columns .multi) (decodeColumn_encodeColumn (hcount .multi)
    (hnames .multi) (fun record _ => reads_values reads_word32 record) _)
  have hstring := finds_fetch (hholds.columns .string) (decodeColumn_encodeColumn (hcount .string)
    (hnames .string) (fun record hrecord => reads_texts fun s hs =>
      hfits.texts record hrecord s (List.mem_of_mem_take hs)) _)
  refine hunsigned.bind (hfloat.bind ?_)
  refine .bind (finds_lift (checkLength_capped (hcolumns .float))) (hmulti.bind ?_)
  refine .bind (finds_lift (checkLength_capped (hcolumns .multi))) (hstring.bind ?_)
  refine .bind (finds_lift (checkLength_capped (hcolumns .string))) ?_
  unfold Finds
  change (Except.ok _, disk) = _
  congr 3
  funext kind
  cases kind <;> rfl

lemma finds_load (hholds : Holds disk location index) (hfits : FitsColumns index.attributes)
    (hrecords : ∀ record ∈ index.postings.entries, FitsRecord record)
    (hconsistent : Consistent index.postings index.attributes) :
    Finds disk (load Disk.access location) ⟨index.postings, keptStore index.attributes⟩ := by
  obtain ⟨records, horder, hread⟩ := hholds.postings
  have hpostings : Finds disk (loadPostings Disk.access location) index.postings :=
    finds_fetch hread (decodeIndex_encodeRecords horder
      (fun record hrecord => hrecords record (horder.subset hrecord)) _)
  have hkept : Consistent index.postings (keptStore index.attributes) := by
    refine ⟨fun kind => ?_, hconsistent.ascending, ?_⟩
    · rw [columnLength_keptStore, documentCount_keptStore]
      exact hconsistent.columns kind
    · rw [documentCount_keptStore]
      exact hconsistent.within
  exact hpostings.bind ((finds_loadAttributes hholds hfits hconsistent.columns).bind
    (finds_lift (assemble_eq_ok_iff.mpr ⟨hkept, rfl⟩)))

end Loading

lemma Built.fitsRecord {schema : Schema} {segmenter : Segmenter} {rows : List Row} {b : Builder}
    (h : Built schema segmenter rows b) (hfew : rows.length < UInt32.size)
    {record : Term × PostingList} (hrecord : record ∈ b.index.postings.entries)
    (htext : Utf8.size record.1.text < UInt32.size) : FitsRecord record := by
  obtain ⟨hlist, -⟩ := h.record hrecord
  refine ⟨htext, ?_, ?_⟩
  · have hle : (postingsAfter schema segmenter rows record.1).length ≤ rows.zipIdx.length :=
      List.length_filterMap_le _ _
    rw [List.length_zipIdx, ← hlist] at hle
    exact Nat.lt_of_le_of_lt hle hfew
  · intro p hp
    rw [hlist] at hp
    exact (payload_of_mem_postingsAfter hp).2

/-- What was built can be saved, with its records in any order, where each of its files can be written. Once it
is saved it can be loaded, and no search and no reply tells it from what was built. -/
theorem stored_index_answers_alike {schema : Schema} {segmenter : Segmenter} {source : RowSource} {built : Index}
    {records : List (Term × PostingList)} (hbuild : buildIndex schema segmenter source = .ok built)
    (hfits : FitsColumns built.attributes)
    (hnames : ∀ kind, (built.attributes.names kind).length ≤ 255)
    (hterms : ∀ record ∈ built.postings.entries, Utf8.size record.1.text < UInt32.size)
    (hrecords : records.Perm built.postings.entries) (disk : Disk) (location : Location) :
    ((∃ after, (save Disk.access location built records).run disk = (.ok (), after)) ↔
      ∀ path ∈ location.files, (disk.write path []).2 = .ok ()) ∧
    ∀ after, (save Disk.access location built records).run disk = (.ok (), after) →
      ∃ loaded original, (load Disk.access location).run.run after = (.ok loaded, after) ∧
        LoadedIndex.ofIndex built = .ok original ∧
        ∀ (cut : Segmenter) (request : Request),
          Searcher.search ⟨loaded, cut⟩ request = Searcher.search ⟨original, cut⟩ request ∧
          ∀ (format : ReplyFormat) (packCost : Nat) (costs : Costs),
            format.render packCost loaded.attributes
                { Searcher.search ⟨loaded, cut⟩ request with costs } =
              format.render packCost original.attributes
                { Searcher.search ⟨original, cut⟩ request with costs } := by
  refine ⟨exists_save_iff, fun after hsave => ?_⟩
  obtain ⟨rows, b, -, hb, rfl⟩ := built_buildIndex hbuild
  have hfew : rows.length < UInt32.size := by
    have hcount := hfits.few
    rwa [hb.attributes, documentCount_columnsOf, List.length_map] at hcount
  have hload : Finds after (load Disk.access location) ⟨b.index.postings, keptStore b.index.attributes⟩ :=
    finds_load (holds_of_save hrecords hsave) hfits
      (fun record hrecord => hb.fitsRecord hfew hrecord (hterms record hrecord)) hb.consistent
  refine ⟨⟨b.index.postings, keptStore b.index.attributes⟩, ⟨b.index.postings, b.index.attributes⟩,
    hload, assemble_eq_ok_iff.mpr ⟨hb.consistent, rfl⟩, fun cut request => ?_⟩
  have hsearch := search_keptStore b.index.postings hnames cut request
  refine ⟨hsearch, fun format packCost costs => ?_⟩
  rw [hsearch]
  exact render_keptStore hnames format packCost _

def wholeName : Segmenter := fun s => .ok [⟨s, 0⟩]

def taggedNames : Schema where
  multi := ["tags"]
  string := ["name"]
  text := ["name"]

/-- A row with more tags than a byte counts. -/
def manyTags : Row :=
  [("name", "cat"), ("tags", String.ofList (List.replicate 300 ['7', ',']).flatten)]

lemma length_manyTags : 255 < (manyTags.values taggedNames).multi.length := by
  have htags : manyTags.raw "tags" = String.ofList (List.replicate 300 ['7', ',']).flatten := rfl
  have hvalues : ∀ row : Row, (row.values taggedNames).multi = multiValues (row.raw "tags").toList :=
    fun row => List.flatMap_singleton _ _
  rw [hvalues, htags, String.toList_ofList]
  decide +kernel

lemma fitsColumns_manyTags : FitsColumns (columnsOf taggedNames [manyTags.values taggedNames]) := by
  refine ⟨by decide, fun kind => ?_, ?_⟩
  · cases kind <;> decide
  · intro record hrecord s hs
    obtain rfl : record = ["cat"] := List.mem_singleton.mp hrecord
    obtain rfl := List.mem_singleton.mp hs
    decide

theorem stored_index_answers_alike_many_tags :
    ∃ built, buildIndex taggedNames wholeName [.ok manyTags] = .ok built ∧
      255 < (built.attributes.multi.record 0).length ∧
      ∃ after loaded original,
        (save Disk.access ⟨"animals", "data/pets"⟩ built built.postings.entries.reverse).run {} = (.ok (), after) ∧
        (load Disk.access ⟨"animals", "data/pets"⟩).run.run after = (.ok loaded, after) ∧
        LoadedIndex.ofIndex built = .ok original ∧
        Searcher.search ⟨loaded, wholeName⟩ { query := "cat" } =
          Searcher.search ⟨original, wholeName⟩ { query := "cat" } := by
  obtain ⟨built, hbuild⟩ : ∃ built, buildIndex taggedNames wholeName [.ok manyTags] = .ok built :=
    ⟨_, rfl⟩
  obtain ⟨rows, b, hrows, hb, rfl⟩ := built_buildIndex hbuild
  obtain rfl : [manyTags] = rows := List.map_injective_iff.mpr (fun _ _ => Except.ok.inj) hrows
  have hattributes : b.index.attributes = columnsOf taggedNames [manyTags.values taggedNames] :=
    hb.attributes
  have hterms : ∀ record ∈ b.index.postings.entries, Utf8.size record.1.text < UInt32.size := by
    intro record hrecord
    obtain ⟨row, hrow, field, hfield, token, htoken, hterm⟩ := hb.exists_token hrecord
    obtain rfl := List.mem_singleton.mp hrow
    obtain rfl : field = (0, [⟨"cat", 0⟩]) := List.mem_singleton.mp hfield
    obtain rfl := List.mem_singleton.mp htoken
    rw [← hterm]
    decide
  have hdisk : ∀ path ∈ Location.files ⟨"animals", "data/pets"⟩, (Disk.write {} path []).2 = .ok () := by
    decide +kernel
  obtain ⟨hsaved, hloaded⟩ := stored_index_answers_alike hbuild
    (hattributes ▸ fitsColumns_manyTags) (fun kind => by rw [hattributes]; cases kind <;> decide) hterms
    (List.reverse_perm b.index.postings.entries) {} ⟨"animals", "data/pets"⟩
  obtain ⟨after, hsave⟩ := hsaved.mpr hdisk
  obtain ⟨loaded, original, hload, horiginal, halike⟩ := hloaded after hsave
  refine ⟨b.index, hbuild, ?_, after, loaded, original, hsave, hload, horiginal,
    (halike wholeName { query := "cat" }).1⟩
  have hrecord : ∀ v : Values, (columnsOf taggedNames [v]).multi.record 0 = v.multi := fun _ => rfl
  rw [hattributes, hrecord]
  exact length_manyTags

end TextSearch.Proofs
