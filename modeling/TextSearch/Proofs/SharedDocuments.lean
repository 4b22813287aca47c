import TextSearch.Proofs.CursorSeek
import TextSearch.Query.Intersection

/-!
# Shared documents

Seeking in an intersection finds the first document that all lists share, whatever was asked of the
intersection before: a seek moves the cursors and never touches the lists, and where a cursor stands
does not matter to the next seek.
-/

namespace TextSearch.Proofs

/-- The documents from an ordinal on that all lists have. -/
def sharedFrom (lists : List PostingList) (id : Ordinal) : Set Ordinal :=
  {n | id ≤ n ∧ ∀ ps ∈ lists, n ∈ ordinals ps}

/-- Nothing is lost by going on from the first document of one of the lists. -/
lemma sharedFrom_eq_of_isLeast {lists : List PostingList} {ps : PostingList} {id d : Ordinal}
    (hps : ps ∈ lists) (hd : IsLeast (documentsFrom ps id) d) :
    sharedFrom lists id = sharedFrom lists d := by
  ext n
  constructor
  · rintro ⟨hn, hall⟩
    exact ⟨hd.2 ⟨hn, hall ps hps⟩, hall⟩
  · rintro ⟨hn, hall⟩
    exact ⟨UInt32.le_trans hd.1.1 hn, hall⟩

lemma sharedFrom_eq_empty {lists : List PostingList} {ps : PostingList} {id : Ordinal}
    (hps : ps ∈ lists) (h : documentsFrom ps id = ∅) : sharedFrom lists id = ∅ := by
  refine Set.eq_empty_of_forall_notMem ?_
  rintro n ⟨hn, hall⟩
  have hmem : n ∈ documentsFrom ps id := ⟨hn, hall ps hps⟩
  rw [h] at hmem
  exact hmem

/-- Neither the order of the lists nor their repetition matters. -/
lemma sharedFrom_congr {lists others : List PostingList} (h : ∀ ps, ps ∈ others ↔ ps ∈ lists)
    (id : Ordinal) : sharedFrom others id = sharedFrom lists id := by
  ext n
  simp only [sharedFrom, h]

/-- The lists that cursors move in. -/
def listsOf (cursors : List Cursor) : List PostingList := cursors.map Cursor.postings

@[simp] lemma listsOf_nil : listsOf [] = [] := rfl

@[simp] lemma listsOf_cons (c : Cursor) (cursors : List Cursor) :
    listsOf (c :: cursors) = c.postings :: listsOf cursors := rfl

/-- What a verdict says about lists. -/
def VerdictHolds (lists : List PostingList) (candidate : Ordinal) : Verdict → Prop
  | .agreed => ∀ ps ∈ lists, candidate ∈ ordinals ps
  | .beyond found => ∃ ps ∈ lists, IsLeast (documentsFrom ps candidate) found
  | .exhausted => ∃ ps ∈ lists, documentsFrom ps candidate = ∅

lemma VerdictHolds.cons {lists : List PostingList} {ps : PostingList} {candidate : Ordinal}
    {verdict : Verdict} (hps : candidate ∈ ordinals ps) (h : VerdictHolds lists candidate verdict) :
    VerdictHolds (ps :: lists) candidate verdict := by
  cases verdict with
  | agreed => exact List.forall_mem_cons.mpr ⟨hps, h⟩
  | beyond found =>
    obtain ⟨qs, hqs, hleast⟩ := h
    exact ⟨qs, List.mem_cons_of_mem ps hqs, hleast⟩
  | exhausted =>
    obtain ⟨qs, hqs, hempty⟩ := h
    exact ⟨qs, List.mem_cons_of_mem ps hqs, hempty⟩

@[simp] lemma listsOf_sweep (candidate : Ordinal) (cursors : List Cursor) :
    listsOf (sweep candidate cursors).1 = listsOf cursors := by
  fun_induction sweep candidate cursors with
  | case1 => rfl
  | case2 c rest moved => simp [moved]
  | case3 c rest moved others verdict hs hfound ih =>
    rw [hs] at ih
    simp only [listsOf_cons, ih, moved, Cursor.postings_seek]
  | case4 c rest moved found => simp [moved]

/-- A sweep judges truly, wherever the cursors stand. -/
theorem sweep_holds (candidate : Ordinal) {cursors : List Cursor}
    (h : ∀ ps ∈ listsOf cursors, Ascending ps) :
    VerdictHolds (listsOf cursors) candidate (sweep candidate cursors).2 := by
  fun_induction sweep candidate cursors with
  | case1 => simp [VerdictHolds]
  | case2 c rest moved hnone =>
    have hfirst := isFirst_ordinal?_seek (h c.postings List.mem_cons_self) candidate
    rw [hnone] at hfirst
    exact ⟨c.postings, List.mem_cons_self, hfirst⟩
  | case3 c rest moved others verdict hs hfound ih =>
    have hfirst := isFirst_ordinal?_seek (h c.postings List.mem_cons_self) candidate
    rw [hfound] at hfirst
    have hrest := ih fun ps hps => h ps (List.mem_cons_of_mem c.postings hps)
    rw [hs] at hrest
    exact hrest.cons hfirst.1.2
  | case4 c rest moved found hfound =>
    have hfirst := isFirst_ordinal?_seek (h c.postings List.mem_cons_self) candidate
    rw [hfound] at hfirst
    exact ⟨c.postings, List.mem_cons_self, hfirst⟩

@[simp] lemma listsOf_settle (first : Cursor) (candidate : Ordinal) (others : List Cursor) :
    listsOf (settle first candidate others).1 = first.postings :: listsOf others := by
  fun_induction settle first candidate others with
  | case1 first candidate others moved hs => simp [← listsOf_sweep candidate others, hs]
  | case2 first candidate others moved hs => simp [← listsOf_sweep candidate others, hs]
  | case3 first candidate others moved found hs => simp [← listsOf_sweep candidate others, hs]
  | case4 first candidate others moved found hs next hn ih =>
    rw [ih, Cursor.postings_seek, ← listsOf_sweep candidate others, hs]

/-- Settling a candidate of the first list ends at the first shared document from it on. Each round
goes on with a later candidate and passes over no shared document. -/
theorem settle_isFirst {first : Cursor} {candidate : Ordinal} {others : List Cursor}
    (hf : Ascending first.postings) (ho : ∀ ps ∈ listsOf others, Ascending ps)
    (hc : candidate ∈ ordinals first.postings) :
    IsFirst (sharedFrom (first.postings :: listsOf others) candidate)
      (settle first candidate others).2 := by
  fun_induction settle first candidate others with
  | case1 first candidate others moved hs =>
    have hall : ∀ ps ∈ listsOf others, candidate ∈ ordinals ps := by
      have hv := sweep_holds candidate ho
      rwa [hs] at hv
    exact ⟨⟨UInt32.le_refl _, List.forall_mem_cons.mpr ⟨hc, hall⟩⟩, fun n hn => hn.1⟩
  | case2 first candidate others moved hs =>
    have hv := sweep_holds candidate ho
    rw [hs] at hv
    obtain ⟨ps, hps, hempty⟩ := hv
    exact sharedFrom_eq_empty (List.mem_cons_of_mem _ hps) hempty
  | case3 first candidate others moved found hs hn =>
    have hv := sweep_holds candidate ho
    rw [hs] at hv
    obtain ⟨ps, hps, hleast⟩ := hv
    have hfirst := isFirst_ordinal?_seek hf found
    rw [hn] at hfirst
    rw [sharedFrom_eq_of_isLeast (List.mem_cons_of_mem _ hps) hleast]
    exact sharedFrom_eq_empty List.mem_cons_self hfirst
  | case4 first candidate others moved found hs next hn ih =>
    have hv := sweep_holds candidate ho
    rw [hs] at hv
    obtain ⟨ps, hps, hleast⟩ := hv
    have hfirst := isFirst_ordinal?_seek hf found
    rw [hn] at hfirst
    have hlists : listsOf moved = listsOf others := by rw [← listsOf_sweep candidate others, hs]
    -- The first step is to what a later list found, the second to the next document of the first list.
    rw [sharedFrom_eq_of_isLeast (List.mem_cons_of_mem _ hps) hleast,
      sharedFrom_eq_of_isLeast List.mem_cons_self hfirst]
    rw [hlists, Cursor.postings_seek] at ih
    exact ih hf ho hfirst.1.2

@[simp] lemma listsOf_seekAll (id : Ordinal) (cursors : List Cursor) :
    listsOf (seekAll id cursors).1 = listsOf cursors := by
  cases cursors with
  | nil => rfl
  | cons first others =>
    rw [seekAll]
    split <;> simp

theorem seekAll_isFirst (id : Ordinal) {cursors : List Cursor} (hne : cursors ≠ [])
    (h : ∀ ps ∈ listsOf cursors, Ascending ps) :
    IsFirst (sharedFrom (listsOf cursors) id) (seekAll id cursors).2 := by
  cases cursors with
  | nil => exact absurd rfl hne
  | cons first others =>
    obtain ⟨hf, ho⟩ := List.forall_mem_cons.mp h
    have hfirst := isFirst_ordinal?_seek hf id
    rw [seekAll]
    split
    · rename_i hn
      rw [hn] at hfirst
      exact sharedFrom_eq_empty List.mem_cons_self hfirst
    · rename_i candidate hc
      rw [hc] at hfirst
      rw [listsOf_cons, sharedFrom_eq_of_isLeast List.mem_cons_self hfirst,
        ← Cursor.postings_seek first id]
      exact settle_isFirst (by rwa [Cursor.postings_seek]) ho
        (by rw [Cursor.postings_seek]; exact hfirst.1.2)

end TextSearch.Proofs
