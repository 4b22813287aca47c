import TextSearch.Proofs.FilterMaps
import TextSearch.Proofs.TextPieces

/-!
# Texts of filters

A filter is read from a text piece by piece, and texts that are joined are read one after the other. Of a
map that was written out every printing is read back, whatever blanks and useless pieces stand in between.
-/

namespace TextSearch.Proofs
open Text Unicode

/-! ### Pieces -/

/-- A piece that says nothing: it has not exactly one colon, or there is only white space before the colon,
or only white space and commas behind it. -/
def PassedOver (piece : List Char) : Prop :=
  piece.count ':' ≠ 1 ∨ ∃ front back, piece = front ++ ':' :: back ∧
    (Blanks front ∨ ∀ c ∈ back, c = ',' ∨ isBlank c = true)

section Pieces

variable {front back piece : List Char}

lemma piece?_append (hfront : ':' ∉ front) (hback : ':' ∉ back) :
    Filter.piece? (front ++ ':' :: back) =
      if trimBlanks front = [] ∨ trimmedPieces ',' back = [] then none
      else some (String.ofList (trimBlanks front), (trimmedPieces ',' back).map String.ofList) := by
  unfold Filter.piece?
  rw [pieces_append, pieces_of_notMem hfront, pieces_of_notMem hback]
  simp only [List.singleton_append, Bool.or_eq_true, List.isEmpty_iff]

lemma piece?_eq_none_of_count (h : piece.count ':' ≠ 1) : Filter.piece? piece = none := by
  have hlength := length_pieces ':' piece
  unfold Filter.piece?
  split
  · rename_i name values hpieces
    rw [hpieces] at hlength
    exact absurd (Nat.succ_injective hlength.symm) h
  · rfl

lemma piece?_append_eq_none_iff (h : (front ++ ':' :: back).count ':' = 1) :
    Filter.piece? (front ++ ':' :: back) = none ↔
      Blanks front ∨ ∀ c ∈ back, c = ',' ∨ isBlank c = true := by
  rw [List.count_append, List.count_cons_self] at h
  have hfront : ':' ∉ front := List.count_eq_zero.mp (by omega)
  have hback : ':' ∉ back := List.count_eq_zero.mp (by omega)
  rw [piece?_append hfront hback, ← trimBlanks_eq_nil_iff, ← trimmedPieces_eq_nil_iff]
  by_cases hempty : trimBlanks front = [] ∨ trimmedPieces ',' back = []
  · exact iff_of_true (if_pos hempty) hempty
  · exact iff_of_false (by simp [hempty]) hempty

lemma piece?_eq_none_iff : Filter.piece? piece = none ↔ PassedOver piece := by
  by_cases hcount : piece.count ':' = 1
  · constructor
    · intro h
      obtain ⟨front, back, rfl⟩ := List.append_of_mem (List.count_pos_iff.mp (by omega) : ':' ∈ piece)
      exact .inr ⟨front, back, rfl, (piece?_append_eq_none_iff hcount).mp h⟩
    · -- whichever way the piece is parted at a colon, it is the only colon
      rintro (hnot | ⟨front, back, rfl, hempty⟩)
      · exact absurd hcount hnot
      · exact (piece?_append_eq_none_iff hcount).mpr hempty
  · exact iff_of_true (piece?_eq_none_of_count hcount) (.inl hcount)

lemma piece?_padded {before after : List Char} (hbefore : Blanks before) (hafter : Blanks after)
    (piece : List Char) : Filter.piece? (before ++ piece ++ after) = Filter.piece? piece := by
  have hfront : ':' ∉ before := hbefore.notMem (by decide)
  have hback : ':' ∉ after := hafter.notMem (by decide)
  have hcount : (before ++ piece ++ after).count ':' = piece.count ':' := by
    rw [List.count_append, List.count_append, List.count_eq_zero.mpr hfront, List.count_eq_zero.mpr hback]
    omega
  by_cases hone : piece.count ':' = 1
  · obtain ⟨name, values, rfl⟩ := List.append_of_mem (List.count_pos_iff.mp (by omega) : ':' ∈ piece)
    rw [List.count_append, List.count_cons_self] at hone
    have hname : ':' ∉ name := List.count_eq_zero.mp (by omega)
    have hvalues : ':' ∉ values := List.count_eq_zero.mp (by omega)
    have hsplit : before ++ (name ++ ':' :: values) ++ after =
        (before ++ name ++ []) ++ ':' :: ([] ++ values ++ after) := by simp
    rw [hsplit, piece?_append (by simp [hfront, hname]) (by simp [hvalues, hback]),
      piece?_append hname hvalues, trimBlanks_padded hbefore (List.forall_mem_nil _),
      trimmedPieces_padded (by decide) (List.forall_mem_nil _) hafter]
  · rw [piece?_eq_none_of_count hone, piece?_eq_none_of_count (hcount ▸ hone)]

end Pieces

/-! ### Merging -/

lemma piecesOf_append (a b : String) :
    Filter.piecesOf (a ++ ";" ++ b) = Filter.piecesOf a ++ Filter.piecesOf b := by
  have hsemicolon : ";".toList = [';'] := rfl
  unfold Filter.piecesOf
  rw [String.toList_append, String.toList_append, hsemicolon, List.append_assoc, List.singleton_append,
    pieces_append, List.filterMap_append]

lemma merge_append (f : Filter) (a b : String) :
    f.merge (a ++ ";" ++ b) = (((f.merge a).1.merge b).1, (f.merge a).2 + ((f.merge a).1.merge b).2) := by
  unfold Filter.merge
  dsimp only
  rw [piecesOf_append, List.foldl_append, List.length_append]

lemma merge_eq_self_iff (f : Filter) {piece : String} (h : ';' ∉ piece.toList) :
    f.merge piece = (f, 0) ↔ PassedOver piece.toList := by
  have hpieces : Filter.piecesOf piece = (Filter.piece? piece.toList).toList := by
    rw [Filter.piecesOf, pieces_of_notMem h]
    cases hread : Filter.piece? piece.toList <;> simp [hread]
  rw [← piece?_eq_none_iff, Filter.merge, hpieces]
  cases Filter.piece? piece.toList <;> simp

lemma piecesOf_trim (text : String) : Filter.piecesOf (trim text) = Filter.piecesOf text := by
  obtain ⟨before, after, hbefore, hafter, htext⟩ := exists_eq_padded text.toList
  unfold Filter.piecesOf trim
  rw [String.toList_ofList]
  conv_rhs => rw [htext]
  exact (filterMap_pieces_padded (by decide) piece?_padded hbefore hafter _).symm

lemma merge_trim (f : Filter) (text : String) : f.merge (trim text) = f.merge text := by
  unfold Filter.merge
  rw [piecesOf_trim]

/-! ### Printing -/

/-- A text without the marks of filters and without blanks at its ends. -/
structure Clean (s : String) : Prop where
  ne_empty : s ≠ ""
  semicolon : ';' ∉ s.toList
  colon : ':' ∉ s.toList
  comma : ',' ∉ s.toList
  front : s.toList.head?.any isBlank = false
  back : s.toList.getLast?.any isBlank = false

instance (s : String) : Decidable (Clean s) :=
  decidable_of_iff (s ≠ "" ∧ ';' ∉ s.toList ∧ ':' ∉ s.toList ∧ ',' ∉ s.toList ∧
      s.toList.head?.any isBlank = false ∧ s.toList.getLast?.any isBlank = false)
    ⟨fun ⟨hne, hsemicolon, hcolon, hcomma, hfront, hback⟩ =>
        ⟨hne, hsemicolon, hcolon, hcomma, hfront, hback⟩,
      fun h => ⟨h.ne_empty, h.semicolon, h.colon, h.comma, h.front, h.back⟩⟩

/-- A text between blanks. -/
def Padded (s : String) (slot : List Char) : Prop :=
  ∃ before after, Blanks before ∧ Blanks after ∧ slot = before ++ s.toList ++ after

/-- The slots of a text that has some words in order, and other slots anywhere between them. -/
inductive Interspersed {α : Type} (word : α → List Char → Prop) (other : List Char → Prop) :
    List α → List (List Char) → Prop
  | nil : Interspersed word other [] []
  | other {slot words slots} : other slot → Interspersed word other words slots →
      Interspersed word other words (slot :: slots)
  | word {x slot words slots} : word x slot → Interspersed word other words slots →
      Interspersed word other (x :: words) (slot :: slots)

/-- A piece `name:v1,v2`, with blanks around the names and values and with blank values. -/
def PrintsPiece (entry : String × List String) (piece : List Char) : Prop :=
  ∃ name slots, Padded entry.1 name ∧ Interspersed Padded Blanks entry.2 slots ∧
    piece = name ++ ':' :: [','].intercalate slots

/-- A text of pieces, with other pieces between them that are passed over, such as blank ones. -/
def Prints (entries : List (String × List String)) (text : String) : Prop :=
  ∃ slots, Interspersed PrintsPiece (fun slot => ';' ∉ slot ∧ PassedOver slot) entries slots ∧
    text.toList = [';'].intercalate slots

structure CleanEntry (entry : String × List String) : Prop where
  name : Clean entry.1
  list : entry.2 ≠ []
  values : ∀ value ∈ entry.2, Clean value

/-- A finite map from clean names to lists of clean values. -/
structure CleanMap (m : Filter) : Prop where
  ascending : AscendingNames m
  entries : ∀ entry ∈ m.entries, CleanEntry entry

/-- The values of each name are spread over some entries, in order. -/
structure Spreads (m : Filter) (entries : List (String × List String)) : Prop where
  lists : ∀ entry ∈ entries, entry.2 ≠ []
  values : ∀ name, (itemsFor name entries).flatten = (m.get? name).getD []

section Interspersed

variable {α β : Type} {word : α → List Char → Prop} {other : List Char → Prop} {words : List α}
  {slots : List (List Char)}

lemma Interspersed.forall_slots (h : Interspersed word other words slots) {P : List Char → Prop}
    (hword : ∀ x ∈ words, ∀ slot, word x slot → P slot) (hother : ∀ slot, other slot → P slot) :
    ∀ slot ∈ slots, P slot := by
  induction h with
  | nil => exact List.forall_mem_nil _
  | other hslot _ ih => exact List.forall_mem_cons.mpr ⟨hother _ hslot, ih hword⟩
  | word hslot _ ih =>
    obtain ⟨hfirst, hrest⟩ := List.forall_mem_cons.mp hword
    exact List.forall_mem_cons.mpr ⟨hfirst _ hslot, ih hrest⟩

lemma Interspersed.filterMap_eq (h : Interspersed word other words slots) {read : List Char → Option β}
    {f : α → β} (hword : ∀ x ∈ words, ∀ slot, word x slot → read slot = some (f x))
    (hother : ∀ slot, other slot → read slot = none) : slots.filterMap read = words.map f := by
  induction h with
  | nil => rfl
  | other hslot _ ih => rw [List.filterMap_cons_none (hother _ hslot), ih hword]
  | word hslot _ ih =>
    obtain ⟨hfirst, hrest⟩ := List.forall_mem_cons.mp hword
    rw [List.filterMap_cons_some (hfirst _ hslot), List.map_cons, ih hrest]

end Interspersed

/-! ### Reading back -/

lemma Padded.trim {s : String} {slot : List Char} (h : Padded s slot) (hs : Clean s) :
    trimBlanks slot = s.toList := by
  obtain ⟨before, after, hbefore, hafter, rfl⟩ := h
  have hne : s.toList ≠ [] := fun he => hs.ne_empty (String.toList_eq_nil_iff.mp he)
  exact trimBlanks_between hbefore hafter hne hs.front hs.back

lemma Padded.notMem {s : String} {slot : List Char} (h : Padded s slot) {c : Char} (hs : c ∉ s.toList)
    (hc : isBlank c = false) : c ∉ slot := by
  obtain ⟨before, after, hbefore, hafter, rfl⟩ := h
  simp only [List.mem_append, not_or]
  exact ⟨⟨hbefore.notMem hc, hs⟩, hafter.notMem hc⟩

section Entries

variable {entry : String × List String} {entries : List (String × List String)} {m : Filter}

lemma notMem_of_interspersed {values : List String} {slots : List (List Char)}
    (h : Interspersed Padded Blanks values slots) {c : Char}
    (hvalues : ∀ value ∈ values, c ∉ value.toList) (hc : isBlank c = false) :
    ∀ slot ∈ slots, c ∉ slot :=
  h.forall_slots (fun value hvalue _ hslot => hslot.notMem (hvalues value hvalue) hc)
    fun _ hblank => hblank.notMem hc

lemma trimmedPieces_of_interspersed {values : List String} {slots : List (List Char)}
    (h : Interspersed Padded Blanks values slots) (hvalues : ∀ value ∈ values, Clean value) :
    trimmedPieces ',' ([','].intercalate slots) = values.map String.toList := by
  have hfree : ∀ slot ∈ slots, ',' ∉ slot := notMem_of_interspersed h
    (fun value hvalue => (hvalues value hvalue).comma) (by decide)
  rw [trimmedPieces_eq_filterMap, filterMap_pieces_intercalate (if_pos (List.forall_mem_nil _)) hfree]
  refine h.filterMap_eq (fun value hvalue slot hslot => ?_) fun slot hblank => if_pos hblank
  have htrim := hslot.trim (hvalues value hvalue)
  have hne : ¬Blanks slot := by
    rw [← trimBlanks_eq_nil_iff, htrim, String.toList_eq_nil_iff]
    exact (hvalues value hvalue).ne_empty
  rw [if_neg hne, htrim]

lemma PrintsPiece.piece? {piece : List Char} (h : PrintsPiece entry piece) (hentry : CleanEntry entry) :
    Filter.piece? piece = some entry := by
  obtain ⟨front, slots, hfront, hslots, rfl⟩ := h
  have hname : ':' ∉ front := hfront.notMem hentry.name.colon (by decide)
  have hfree : ∀ slot ∈ slots, ':' ∉ slot := notMem_of_interspersed hslots
    (fun value hvalue => (hentry.values value hvalue).colon) (by decide)
  have hvalues := trimmedPieces_of_interspersed hslots hentry.values
  have hkept : ¬(entry.1.toList = [] ∨ entry.2.map String.toList = []) := by
    rw [String.toList_eq_nil_iff, List.map_eq_nil_iff]
    exact not_or.mpr ⟨hentry.name.ne_empty, hentry.list⟩
  rw [piece?_append hname (notMem_intercalate (by decide) hfree), hfront.trim hentry.name, hvalues,
    if_neg hkept]
  simp

lemma PrintsPiece.notMem {piece : List Char} (h : PrintsPiece entry piece) (hentry : CleanEntry entry) :
    ';' ∉ piece := by
  obtain ⟨front, slots, hfront, hslots, rfl⟩ := h
  have hname : ';' ∉ front := hfront.notMem hentry.name.semicolon (by decide)
  have hfree : ∀ slot ∈ slots, ';' ∉ slot := notMem_of_interspersed hslots
    (fun value hvalue => (hentry.values value hvalue).semicolon) (by decide)
  simp only [List.mem_append, List.mem_cons, not_or]
  exact ⟨hname, by decide, notMem_intercalate (by decide) hfree⟩

/-- What was printed is found in the pieces, in order. -/
lemma Prints.piecesOf_eq {text : String} (h : Prints entries text)
    (hentries : ∀ entry ∈ entries, CleanEntry entry) : Filter.piecesOf text = entries := by
  obtain ⟨slots, hslots, htext⟩ := h
  have hfree : ∀ slot ∈ slots, ';' ∉ slot :=
    hslots.forall_slots (fun entry hentry _ hslot => hslot.notMem (hentries entry hentry))
      fun _ hother => hother.1
  have hempty : Filter.piece? [] = none := rfl
  rw [Filter.piecesOf, htext, filterMap_pieces_intercalate hempty hfree]
  have hread : slots.filterMap Filter.piece? = entries.map id :=
    hslots.filterMap_eq (fun entry hentry _ hslot => hslot.piece? (hentries entry hentry))
      fun _ hother => piece?_eq_none_iff.mpr hother.2
  rw [hread, List.map_id]

lemma Spreads.get? (h : Spreads m entries) (hentry : entry ∈ entries) :
    ∃ values, m.get? entry.1 = some values ∧ entry.2 ⊆ values := by
  have hlist : entry.2 ∈ itemsFor entry.1 entries :=
    List.mem_map.mpr ⟨entry, List.mem_filter.mpr ⟨hentry, by simp⟩, rfl⟩
  have hvalues : entry.2 ⊆ (m.get? entry.1).getD [] := by
    rw [← h.values]
    exact fun value hvalue => List.mem_flatten_of_mem hlist hvalue
  cases hget : m.get? entry.1 with
  | none =>
    rw [hget] at hvalues
    exact absurd (List.subset_nil.mp hvalues) (h.lists entry hentry)
  | some values =>
    rw [hget] at hvalues
    exact ⟨values, rfl, hvalues⟩

lemma Spreads.clean (h : Spreads m entries) (hm : CleanMap m) :
    ∀ entry ∈ entries, CleanEntry entry := by
  intro entry hentry
  obtain ⟨values, hget, hvalues⟩ := h.get? hentry
  have hclean := hm.entries _ (mem_entries_of_get? hget)
  exact ⟨hclean.name, h.lists entry hentry, fun value hvalue => hclean.values value (hvalues hvalue)⟩

/-- Entries that are allowed one after the other come to the map over which they are spread. -/
lemma Spreads.foldl_allow (h : Spreads m entries) (hm : CleanMap m) :
    entries.foldl (fun f entry => f.allow entry.1 entry.2) Filter.empty = m := by
  have hempty : AscendingNames Filter.empty := List.Pairwise.nil
  -- both have their names in ascending order, so it is enough to look at one name
  refine (ascendingNames_foldl_allow hempty entries).ext hm.ascending fun name => ?_
  have hvalues := h.values name
  rw [get?_foldl_allow hempty]
  split
  · rename_i hnil
    rw [hnil] at hvalues
    cases hget : m.get? name with
    | none => rfl
    | some values =>
      rw [hget] at hvalues
      exact absurd hvalues.symm (hm.entries _ (mem_entries_of_get? hget)).list
  · rename_i hne
    obtain ⟨entry, hentry, rfl⟩ := List.mem_map.mp (itemsFor_ne_nil_iff.mp hne)
    obtain ⟨values, hget, -⟩ := h.get? hentry
    rw [hget] at hvalues ⊢
    exact congrArg some hvalues

lemma merge_printed {text : String} (htext : Prints entries text) (h : Spreads m entries)
    (hm : CleanMap m) : Filter.empty.merge text = (m, entries.length) := by
  rw [Filter.merge, htext.piecesOf_eq (h.clean hm), h.foldl_allow hm]

/-! ### Plain printings -/

/-- Entries as `name:v1,v2;name2:v3`. -/
def plainly (entries : List (String × List String)) : String :=
  ";".intercalate (entries.map fun entry => entry.1 ++ ":" ++ ",".intercalate entry.2)

lemma padded_self (s : String) : Padded s s.toList :=
  ⟨[], [], List.forall_mem_nil _, List.forall_mem_nil _, by simp⟩

lemma interspersed_map {α : Type} {word : α → List Char → Prop} {other : List Char → Prop}
    {f : α → List Char} (h : ∀ x, word x (f x)) (words : List α) :
    Interspersed word other words (words.map f) := by
  induction words with
  | nil => exact .nil
  | cons x words ih => exact .word (h x) ih

lemma prints_plainly (entries : List (String × List String)) : Prints entries (plainly entries) := by
  refine ⟨entries.map fun entry => entry.1.toList ++ ':' :: [','].intercalate (entry.2.map String.toList),
    interspersed_map (fun entry => ?_) entries, ?_⟩
  · exact ⟨_, _, padded_self _, interspersed_map padded_self _, rfl⟩
  · simp [plainly, Function.comp_def]

lemma spreads_of_perm (hm : CleanMap m) (h : entries.Perm m.entries) : Spreads m entries where
  lists entry hentry := (hm.entries entry (h.mem_iff.mp hentry)).list
  values name := by
    have hne : m.entries.Pairwise fun a b => a.1 ≠ b.1 := hm.ascending.imp ne_of_lt
    have hitems : itemsFor name entries = (m.get? name).toList :=
      itemsFor_eq_toList ((h.pairwise_iff Ne.symm).mpr hne) fun values => by
        rw [h.mem_iff, hm.ascending.mem_entries_iff]
    rw [hitems]
    cases m.get? name <;> simp

end Entries

/-- Texts joined by a semicolon are merged one after the other. A piece changes a filter, and is counted,
unless it is passed over. A map of clean names to clean values is read back from every text that prints
entries over which its values are spread; so it is from its plain printings, in any order of the names. -/
theorem filter_texts_merge_and_read_back :
    (∀ (f : Filter) (a b : String), f.merge (a ++ ";" ++ b) =
      (((f.merge a).1.merge b).1, (f.merge a).2 + ((f.merge a).1.merge b).2)) ∧
    (∀ (f : Filter) (piece : String), ';' ∉ piece.toList →
      (f.merge piece = (f, 0) ↔ PassedOver piece.toList)) ∧
    ∀ m : Filter, CleanMap m →
      (∀ entries text, Spreads m entries → Prints entries text →
        Filter.parse text = m ∧ (Filter.empty.merge text).2 = entries.length) ∧
      ∀ entries, entries.Perm m.entries → Filter.parse (plainly entries) = m := by
  refine ⟨merge_append, fun f piece => merge_eq_self_iff f, fun m hm => ⟨?_, ?_⟩⟩
  · intro entries text hspread htext
    have hmerge := merge_printed htext hspread hm
    exact ⟨congrArg Prod.fst hmerge, congrArg Prod.snd hmerge⟩
  · intro entries hperm
    exact congrArg Prod.fst (merge_printed (prints_plainly entries) (spreads_of_perm hm hperm) hm)

/-- The values of a name stand in two pieces. There is a blank piece, one without a colon and one with two,
an empty value, and white space around names and values. -/
theorem filter_texts_merge_and_read_back_two_tags :
    let m : Filter := ⟨[("tag", ["3", "4", "3"]), ("year", ["7"])]⟩
    let text := " ;tag : 3 ,, 4;bad;year:7;a:b:c;tag:\u30003"
    Filter.parse text = m ∧ (Filter.empty.merge text).2 = 3 ∧ Filter.parse "year:7;tag:3,4,3" = m ∧
      Filter.empty.merge "a:b:c" = (Filter.empty, 0) := by
  intro m text
  have hm : CleanMap m := by
    refine ⟨by decide, List.forall_mem_cons.mpr ⟨⟨by decide, by decide, by decide⟩, ?_⟩⟩
    exact List.forall_mem_singleton.mpr ⟨by decide, by decide, by decide⟩
  obtain ⟨-, hpassed, hmaps⟩ := filter_texts_merge_and_read_back
  obtain ⟨hprinted, hplain⟩ := hmaps m hm
  let entries := [("tag", ["3", "4"]), ("year", ["7"]), ("tag", ["3"])]
  have hspread : Spreads m entries := by
    refine ⟨by decide, fun name => ?_⟩
    by_cases htag : "tag" = name
    · subst htag
      decide
    · by_cases hyear : "year" = name
      · subst hyear
        decide
      · simp [entries, itemsFor, m, Filter.get?, htag, hyear]
  have htext : Prints entries text := by
    refine ⟨[" ", "tag : 3 ,, 4", "bad", "year:7", "a:b:c", "tag:\u30003"].map String.toList, ?_,
      by decide⟩
    have hother : ∀ slot ∈ [" ", "bad", "a:b:c"], ';' ∉ slot.toList ∧ PassedOver slot.toList := by
      have hcount : ∀ slot ∈ [" ", "bad", "a:b:c"],
          ';' ∉ slot.toList ∧ slot.toList.count ':' ≠ 1 := by decide
      exact fun slot hslot => (hcount slot hslot).imp_right .inl
    have htags : PrintsPiece ("tag", ["3", "4"]) "tag : 3 ,, 4".toList :=
      ⟨"tag ".toList, [" 3 ", "", " 4"].map String.toList,
        ⟨[], [' '], by decide, by decide, by decide⟩,
        .word ⟨[' '], [' '], by decide, by decide, by decide⟩ (.other (by decide)
          (.word ⟨[' '], [], by decide, by decide, by decide⟩ .nil)), by decide⟩
    have hyear : PrintsPiece ("year", ["7"]) "year:7".toList :=
      ⟨_, ["7".toList], padded_self _, .word (padded_self _) .nil, by decide⟩
    have htag : PrintsPiece ("tag", ["3"]) "tag:\u30003".toList :=
      ⟨_, ["\u30003".toList], padded_self _,
        .word ⟨['\u3000'], [], by decide, by decide, by decide⟩ .nil, by decide⟩
    exact .other (hother _ (by decide)) (.word htags (.other (hother _ (by decide))
      (.word hyear (.other (hother _ (by decide)) (.word htag .nil)))))
  obtain ⟨hparse, hcount⟩ := hprinted entries text hspread htext
  refine ⟨hparse, hcount, hplain _ (List.Perm.swap _ _ _), ?_⟩
  exact (hpassed _ _ (by decide)).mpr (.inl (by decide))

end TextSearch.Proofs
