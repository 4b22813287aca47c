import TextSearch.Proofs.BuilderHistories

/-!
# Refused rows

A row that is refused changes nothing. So rows are refused for a column until one has all of them, what a
builder has is what the rows make that it took, and a source that fails leaves it at the row before.
-/

namespace TextSearch.Proofs

section Builders

variable {b c : Builder} {row : Row} {rows : List Row}

/-- A builder that has documents has checked the columns of some row. -/
def Vetted (b : Builder) : Prop := 0 < b.documentCount → b.checked = true

lemma index_eq_of_addRow_error {e : SearchError} (h : b.addRow row = (c, .error e)) :
    c.index = b.index := by
  obtain ⟨checked, rfl⟩ := addRow_eq_error h
  rfl

lemma Vetted.eq_of_addRow_error {e : SearchError} (hb : Vetted b) (h : b.addRow row = (c, .error e)) :
    c = b := by
  rcases addRow_cases b row with ⟨-, column, -, hrow⟩ | ⟨-, hrow⟩ | ⟨hfull, hrow⟩
  · exact (Prod.mk.inj (h.symm.trans hrow)).1
  · exact absurd (Prod.mk.inj (hrow.symm.trans h)).2 (by simp)
  · -- there are documents, so the flag was set before
    have hchecked : b.checked = true := hb (Nat.lt_of_lt_of_le (by decide) hfull)
    rw [(Prod.mk.inj (h.symm.trans hrow)).1, ← hchecked]

lemma vetted_of_addRow_ok {ordinal : Ordinal} (h : b.addRow row = (c, .ok ordinal)) : Vetted c := by
  obtain ⟨-, -, rfl⟩ := addRow_eq_ok h
  intro _
  rfl

lemma documentCount_insert (b : Builder) (ordinal : Ordinal) (row : Row) :
    (b.insert ordinal row).documentCount = b.documentCount + 1 := by
  simp [Builder.insert, Builder.documentCount, Index.documentCount, AttributeStore.documentCount,
    AttributeStore.push, Column.add]

lemma Adds.vetted (h : Adds b rows c) (hb : Vetted b) : Vetted c := by
  induction h with
  | nil b => exact hb
  | cons hrow _ ih => exact ih (vetted_of_addRow_ok hrow)

/-- A source fails at the first result that is an error or a row that is refused. -/
lemma addSource_eq_error_iff {source : RowSource} {e : SearchError} (hb : Vetted b) :
    b.addSource source = (c, .error e) ↔ ∃ rows bad rest, source = rows.map .ok ++ bad :: rest ∧
      Adds b rows c ∧ (bad = .error e ∨ ∃ row, bad = .ok row ∧ (c.addRow row).2 = .error e) := by
  constructor
  · intro h
    induction source generalizing b with
    | nil => exact absurd (Prod.mk.inj h).2 (by simp)
    | cons first source ih =>
      cases first with
      | error fault =>
        obtain ⟨rfl, he⟩ := Prod.mk.inj h
        obtain rfl := Except.error.inj he
        exact ⟨[], _, source, rfl, .nil b, .inl rfl⟩
      | ok row =>
        rw [Builder.addSource] at h
        split at h
        · rename_i refused fault hrow
          obtain rfl := hb.eq_of_addRow_error hrow
          obtain ⟨rfl, he⟩ := Prod.mk.inj h
          obtain rfl := Except.error.inj he
          exact ⟨[], .ok row, source, rfl, .nil _, .inr ⟨row, rfl, by rw [hrow]⟩⟩
        · rename_i between ordinal hrow
          obtain ⟨hlast, hresult⟩ := Prod.mk.inj h
          have hfault : (between.addSource source).2 = .error e := map_eq_error_iff.mp hresult
          obtain ⟨rows, bad, rest, rfl, hrows, hbad⟩ := ih (vetted_of_addRow_ok hrow) (Prod.ext hlast hfault)
          exact ⟨row :: rows, bad, rest, rfl, .cons hrow hrows, hbad⟩
  · rintro ⟨rows, bad, rest, rfl, hrows, hbad⟩
    have hfails : c.addSource (bad :: rest) = (c, .error e) := by
      rcases hbad with rfl | ⟨row, rfl, hrow⟩
      · rfl
      · have hstays := (hrows.vetted hb).eq_of_addRow_error (Prod.ext rfl hrow)
        rw [Builder.addSource, show c.addRow row = (c, .error e) from Prod.ext hstays hrow]
    rw [hrows.addSource_append, hfails]
    rfl

end Builders

/-! ### Histories -/

lemma vetted_new (schema : Schema) (segmenter : Segmenter) : Vetted (Builder.new schema segmenter) := by
  intro hpos
  exact absurd hpos (Nat.lt_irrefl 0)

lemma adds_takenFrom {b : Builder} (hb : Vetted b) (source : RowSource) :
    Adds b ((takenFrom b source).map Prod.fst) (b.addSource source).1 := by
  induction source generalizing b with
  | nil => exact .nil b
  | cons first source ih =>
    cases first with
    | error e => exact .nil b
    | ok row =>
      rw [takenFrom, Builder.addSource]
      cases hrow : b.addRow row with
      | mk c result =>
        cases result with
        | error e =>
          obtain rfl := hb.eq_of_addRow_error hrow
          exact .nil c
        | ok ordinal => exact .cons hrow (ih (vetted_of_addRow_ok hrow))

lemma adds_feed {b : Builder} (hb : Vetted b) (feed : Feed) :
    Adds b ((feed.taken b).map Prod.fst) (feed.run b) := by
  cases feed with
  | addSource source => exact adds_takenFrom hb source
  | addRow row =>
    rw [Feed.taken, Feed.run]
    cases hrow : b.addRow row with
    | mk c result =>
      cases result with
      | error e =>
        obtain rfl := hb.eq_of_addRow_error hrow
        exact .nil c
      | ok ordinal => exact .cons hrow (.nil c)

/-- Without the rows that it refused, a builder comes to the same. -/
lemma adds_takenIn {b : Builder} (hb : Vetted b) (history : List Feed) :
    Adds b ((takenIn b history).map Prod.fst) (fed b history) := by
  induction history generalizing b with
  | nil => exact .nil b
  | cons feed history ih =>
    have hfeed := adds_feed hb feed
    have hrest := ih (hfeed.vetted hb)
    rw [takenIn, List.map_append]
    exact hfeed.append hrest

/-! ### Answers -/

/-- The answers to rows that are offered to a builder one after the other. -/
def answersTo (b : Builder) : List Row → List (Except SearchError Ordinal)
  | [] => []
  | row :: rest => (b.addRow row).2 :: answersTo (b.addRow row).1 rest

/-- The answer to a row that is not refused for a column, if `count` such rows came before. -/
def answerAt (count : Nat) : Except SearchError Ordinal :=
  if count < UInt32.size then .ok (UInt32.ofNat count) else .error (.tooManyDocuments UInt32.size)

lemma answersTo_of_checked {b : Builder} (hchecked : b.checked = true) {count : Nat}
    (hcount : b.documentCount = min count UInt32.size) (rows : List Row) :
    answersTo b rows = (rows.zipIdx count).map fun entry => answerAt entry.2 := by
  induction rows generalizing b count with
  | nil => rfl
  | cons row rows ih =>
    have hsame : ({ b with checked := true } : Builder) = b := by rw [← hchecked]
    rw [answersTo, addRow_of_passes (.inl hchecked), hsame, List.zipIdx_cons, List.map_cons]
    by_cases hlt : b.documentCount < UInt32.size
    · have heq : b.documentCount = count := by omega
      have hnext : (b.insert (UInt32.ofNat b.documentCount) row).documentCount =
          min (count + 1) UInt32.size := by
        rw [documentCount_insert]
        omega
      have hstill : (b.insert (UInt32.ofNat b.documentCount) row).checked = true := hchecked
      rw [if_pos hlt, ih hstill hnext, answerAt, if_pos (heq ▸ hlt), heq]
    · -- all ordinals are used up, and the count stays where it is
      have hle : UInt32.size ≤ count := by omega
      have hfull : b.documentCount = UInt32.size := by omega
      have hnext : b.documentCount = min (count + 1) UInt32.size := by omega
      rw [if_neg hlt, ih hchecked hnext, answerAt, if_neg (Nat.not_lt.mpr hle), hfull]

lemma answersTo_new (schema : Schema) (segmenter : Segmenter) (rows : List Row) :
    answersTo (Builder.new schema segmenter) rows =
      ((rows.takeWhile fun row => (lackedColumn? schema row).isSome).map fun row =>
        .error (.unknownColumn ((lackedColumn? schema row).getD ""))) ++
      (rows.dropWhile fun row => (lackedColumn? schema row).isSome).zipIdx.map fun entry =>
        answerAt entry.2 := by
  induction rows with
  | nil => rfl
  | cons row rows ih =>
    cases hlacks : lackedColumn? schema row with
    | some column =>
      have hrow : (Builder.new schema segmenter).addRow row =
          (Builder.new schema segmenter, .error (.unknownColumn column)) := addRow_of_lacks rfl hlacks
      rw [answersTo, hrow, ih]
      simp [hlacks]
    | none =>
      -- from this row on it is as if the columns had been checked
      have hrow : (Builder.new schema segmenter).addRow row =
          ({ Builder.new schema segmenter with checked := true } : Builder).addRow row := by
        rw [addRow_of_passes (.inr hlacks), addRow_of_passes (.inl rfl)]
        rfl
      have hrest : answersTo { Builder.new schema segmenter with checked := true } (row :: rows) =
          (row :: rows).zipIdx.map fun entry => answerAt entry.2 :=
        answersTo_of_checked rfl rfl (row :: rows)
      rw [answersTo, hrow, ← answersTo, hrest]
      simp [hlacks]

/-- The rows that are answered with an ordinal. -/
def accepted (b : Builder) (rows : List Row) : List Row :=
  ((rows.zip (answersTo b rows)).filter fun entry => entry.2.isOk).map Prod.fst

lemma map_fst_takenIn (b : Builder) (rows : List Row) :
    (takenIn b (rows.map Feed.addRow)).map Prod.fst = accepted b rows := by
  induction rows generalizing b with
  | nil => rfl
  | cons row rows ih =>
    have hrest := ih (b.addRow row).1
    unfold accepted at hrest ⊢
    rw [List.map_cons, takenIn, Feed.taken, Feed.run, List.map_append, hrest, answersTo, List.zip_cons_cons]
    cases hrow : (b.addRow row).2 with
    | error e => simp [Except.isOk, Except.toBool]
    | ok ordinal => simp [Except.isOk, Except.toBool]

lemma buildIndex_accepted (schema : Schema) (segmenter : Segmenter) (rows : List Row) :
    buildIndex schema segmenter ((accepted (Builder.new schema segmenter) rows).map .ok) =
      .ok (fed (Builder.new schema segmenter) (rows.map Feed.addRow)).finish := by
  have hadds := adds_takenIn (vetted_new schema segmenter) (rows.map Feed.addRow)
  rw [map_fst_takenIn] at hadds
  have hsource := addSource_eq_ok_iff.mpr ⟨_, rfl, hadds, rfl⟩
  unfold buildIndex
  rw [hsource]
  rfl

/-- A row that is refused leaves the postings and the columns as they were. Rows that are offered to a new
builder are refused, with the first column that they lack, until one has all columns; from then on they are
taken as long as there are ordinals, and the index is that of the rows that were taken. A source that fails
leaves the builder at the row before, and sources that are taken can be joined. -/
theorem refused_rows_leave_no_trace (schema : Schema) (segmenter : Segmenter) :
    let new := Builder.new schema segmenter
    (∀ (b c : Builder) (row : Row) (e : SearchError), b.addRow row = (c, .error e) →
      c.index = b.index) ∧
    (∀ rows : List Row,
      answersTo new rows =
        ((rows.takeWhile fun row => (lackedColumn? schema row).isSome).map fun row =>
          .error (.unknownColumn ((lackedColumn? schema row).getD ""))) ++
        (rows.dropWhile fun row => (lackedColumn? schema row).isSome).zipIdx.map fun entry =>
          answerAt entry.2) ∧
    (∀ rows : List Row,
      buildIndex schema segmenter ((accepted new rows).map .ok) =
        .ok (fed new (rows.map Feed.addRow)).finish) ∧
    (∀ (history : List Feed) (source : RowSource) (c : Builder) (e : SearchError),
      (fed new history).addSource source = (c, .error e) ↔
        ∃ rows bad rest, source = rows.map .ok ++ bad :: rest ∧ Adds (fed new history) rows c ∧
          (bad = .error e ∨ ∃ row, bad = .ok row ∧ (c.addRow row).2 = .error e)) ∧
    ∀ (b d : Builder) (first second : RowSource) (n : Nat),
      b.addSource (first ++ second) = (d, .ok n) ↔ ∃ c k m, b.addSource first = (c, .ok k) ∧
        c.addSource second = (d, .ok m) ∧ n = k + m := by
  refine ⟨fun b c row e => index_eq_of_addRow_error, answersTo_new schema segmenter,
    buildIndex_accepted schema segmenter, ?_, fun b d first second n => addSource_append_eq_ok_iff⟩
  intro history source c e
  have hvetted := (adds_takenIn (vetted_new schema segmenter) history).vetted
    (vetted_new schema segmenter)
  exact addSource_eq_error_iff hvetted

def notes : Schema where
  unsigned := ["year"]
  text := ["note"]

/-- The first row lacks two columns. The last one lacks both as well, but comes behind a row that has
them. -/
theorem refused_rows_leave_no_trace_notes :
    let new := Builder.new notes fun text => .ok [⟨text, 0⟩]
    let rows : List Row := [[("title", "")], [("note", "hen"), ("year", "7")], []]
    (∃ c, new.addRow [("title", "")] = (c, .error (.unknownColumn "year")) ∧ c.index = new.index) ∧
      answersTo new rows = [.error (.unknownColumn "year"), .ok 0, .ok 1] ∧
      buildIndex notes (fun text => .ok [⟨text, 0⟩]) [.ok [("note", "hen"), ("year", "7")], .ok []] =
        .ok (fed new (rows.map Feed.addRow)).finish := by
  intro new rows
  obtain ⟨hindex, hanswers, haccepted, -, -⟩ :=
    refused_rows_leave_no_trace notes fun text => .ok [⟨text, 0⟩]
  have hrefused : new.addRow [("title", "")] = (new, .error (.unknownColumn "year")) := rfl
  exact ⟨⟨new, hrefused, hindex _ _ _ _ hrefused⟩, hanswers rows, haccepted rows⟩

end TextSearch.Proofs
