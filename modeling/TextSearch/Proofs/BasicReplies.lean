import Mathlib.Tactic.Lemma
import TextSearch.Proofs.DecimalDigits
import TextSearch.Proofs.TextPieces
import TextSearch.Proofs.XmlReplies

/-!
# Replies in plain text

A reply in plain text is written without escapes. It can be read line by line, and the line of a document cell
by cell, exactly when nothing that it shows holds a line feed or a tab.
-/

namespace TextSearch.Proofs
open Reply Text

/-! ### Lines and cells -/

section Cutting

variable {sep c : Char} {cs piece : List Char}

lemma notMem_of_mem_pieces (h : piece ∈ pieces sep cs) : sep ∉ piece := by
  have hpieces : ∀ p ∈ pieces sep cs, ∀ c ∈ p, c ≠ sep := by
    rw [forall_mem_pieces_iff]
    intro c _
    exact em (c = sep)
  exact fun hsep => hpieces piece h sep hsep rfl

lemma mem_of_mem_pieces (h : piece ∈ pieces sep cs) (hc : c ∈ piece) : c ∈ cs := by
  have hpieces : ∀ p ∈ pieces sep cs, ∀ c ∈ p, c ∈ cs := by
    rw [forall_mem_pieces_iff]
    exact fun c hc => .inr hc
  exact hpieces piece h c hc

lemma count_intercalate (hc : c ≠ sep) (slots : List (List Char)) :
    ([sep].intercalate slots).count c = slots.flatten.count c := by
  induction slots with
  | nil => rfl
  | cons slot slots ih =>
    by_cases hnil : slots = []
    · subst hnil
      simp
    · rw [List.intercalate_cons_of_ne_nil hnil, List.flatten_cons, List.count_append, List.count_append,
        List.count_append, ih, List.count_singleton, if_neg (by simpa using hc.symm), Nat.add_zero]

end Cutting

lemma pieces_linesText {lines : List String} (h : ∀ line ∈ lines, '\n' ∉ line.toList) :
    pieces '\n' (linesText lines) = lines.map String.toList ++ [[]] := by
  induction lines with
  | nil => rfl
  | cons line lines ih =>
    obtain ⟨hline, hrest⟩ := List.forall_mem_cons.mp h
    rw [linesText_cons, List.append_assoc, List.singleton_append, pieces_append, pieces_of_notMem hline,
      ih hrest, List.map_cons, List.singleton_append, List.cons_append]

lemma count_linesText (lines : List String) :
    (linesText lines).count '\n' = lines.length + (lines.flatMap String.toList).count '\n' := by
  induction lines with
  | nil => rfl
  | cons line lines ih =>
    rw [linesText_cons, List.count_append, List.count_append, ih, List.flatMap_cons, List.count_append,
      List.count_singleton_self, List.length_cons]
    omega

/-- The cells of a line, which tabs part. An empty line has none. -/
def cells (line : List Char) : List (List Char) := if line = [] then [] else pieces '\t' line

lemma notMem_of_mem_cells {line cell : List Char} (h : cell ∈ cells line) : '\t' ∉ cell := by
  unfold cells at h
  split at h
  · cases h
  · exact notMem_of_mem_pieces h

lemma mem_of_mem_cells {line cell : List Char} {c : Char} (h : cell ∈ cells line) (hc : c ∈ cell) : c ∈ line := by
  unfold cells at h
  split at h
  · cases h
  · exact mem_of_mem_pieces h hc

lemma cells_intercalate {slots : List (List Char)} (hempty : [] ∉ slots) (htab : ∀ slot ∈ slots, '\t' ∉ slot) :
    cells (['\t'].intercalate slots) = slots := by
  cases slots with
  | nil => rfl
  | cons slot slots =>
    have hslot : slot ≠ [] := fun h => hempty (h ▸ List.mem_cons_self)
    have hline : ['\t'].intercalate (slot :: slots) ≠ [] := by
      cases slots with
      | nil => simpa using hslot
      | cons other slots => simp [List.intercalate_cons_cons, hslot]
    rw [cells, if_neg hline, pieces_eq_splitOn]
    exact List.splitOn_intercalate '\t' htab (List.cons_ne_nil slot slots)

/-! ### Pairs -/

/-- How a name and a text stand in a line. -/
def writtenPair (pair : String × String) : List Char := (assignment pair.1 pair.2).toList

lemma toList_assignment (name value : String) :
    (assignment name value).toList = name.toList ++ '=' :: value.toList := by
  simp [assignment]

lemma writtenPair_ne_nil (pair : String × String) : writtenPair pair ≠ [] := by
  simp [writtenPair, toList_assignment]

lemma notMem_writtenPair_iff {c : Char} (hc : c ≠ '=') (pair : String × String) :
    c ∉ writtenPair pair ↔ c ∉ pair.1.toList ∧ c ∉ pair.2.toList := by
  simp [writtenPair, toList_assignment, hc]

lemma count_writtenPair (pair : String × String) :
    (writtenPair pair).count '\n' = (pair.1.toList ++ pair.2.toList).count '\n' := by
  simp [writtenPair, toList_assignment]

lemma toList_fieldsLine (fields : Fields) :
    (fieldsLine fields).toList = ['\t'].intercalate ((fields.map shownField).map writtenPair) := by
  unfold fieldsLine
  rw [String.toList_intercalate, List.map_map, List.map_map]
  rfl

lemma notMem_toString {c : Char} (hc : Decimal.isDigit c = false) (n : Nat) : c ∉ (toString n).toList := by
  intro hmem
  exact absurd ((isDigit_of_mem_toString hmem).symm.trans hc) (by decide)

lemma notMem_costText (n : Nat) : '\n' ∉ (costText n).toList := by
  have hdigits : '\n' ∉ (toString n).toList := notMem_toString (by decide) n
  rw [costText, String.toList_append, List.mem_append]
  exact not_or.mpr ⟨hdigits, by decide⟩

/-! ### Replies -/

/-- The parts of a reply in front of its documents, each with a line of its own. -/
def replyHeads (packCost : Nat) (r : Response) : List (String × String) :=
  summary r ++ [("pack_cost", costText packCost)]

lemma forall_mem_replyHeads_iff (packCost : Nat) (r : Response) :
    (∀ head ∈ replyHeads packCost r, '\n' ∉ writtenPair head) ↔ '\n' ∉ r.query.toList := by
  have hnumber : ∀ n : Nat, '\n' ∉ (toString n).toList := fun n => notMem_toString (by decide) n
  simp only [replyHeads, summary, List.cons_append, List.nil_append, List.forall_mem_cons,
    notMem_writtenPair_iff (c := '\n') (by decide), hnumber, notMem_costText]
  simp

/-- Whether a text, cut into lines, has a line for each head and one for each document, and whether the cells of
the latter are the pairs that are shown of the document. -/
def ReadsByLine (text : String) (heads : List (String × String)) (documents : List (List (String × String))) :
    Prop :=
  ∃ lines, pieces '\n' text.toList = heads.map writtenPair ++ lines ++ [[]] ∧
    lines.map cells = documents.map (List.map writtenPair)

/-- Whether a text breaks neither a line nor a cell. -/
def Unbroken (s : String) : Prop := '\n' ∉ s.toList ∧ '\t' ∉ s.toList

lemma unbroken_pair_iff (pair : String × String) :
    '\n' ∉ writtenPair pair ∧ '\t' ∉ writtenPair pair ↔ Unbroken pair.1 ∧ Unbroken pair.2 := by
  rw [notMem_writtenPair_iff (by decide), notMem_writtenPair_iff (by decide)]
  unfold Unbroken
  tauto

section Basic

variable {heads : List (String × String)} {documents : List (List (String × String))}

/-- The lines of a reply that shows some heads and some documents. -/
def shownLines (heads : List (String × String)) (documents : List (List (String × String))) : List String :=
  heads.map (fun head => assignment head.1 head.2) ++
    documents.map fun pairs => String.ofList (['\t'].intercalate (pairs.map writtenPair))

lemma basicLines_eq (packCost : Nat) (attributes : AttributeStore) (r : Response) :
    basicLines (summary r) (costText packCost) (r.documents.map (project attributes)) =
      shownLines (replyHeads packCost r) (r.documents.map (shownFields attributes)) := by
  have hline : ∀ fields, fieldsLine fields =
      String.ofList (['\t'].intercalate ((fields.map shownField).map writtenPair)) := by
    intro fields
    rw [← toList_fieldsLine, String.ofList_toList]
  simp only [basicLines, shownLines, replyHeads, shownFields, List.map_append, List.map_map, List.map_cons,
    List.map_nil, Function.comp_def, hline]

lemma toList_render_basic (packCost : Nat) (attributes : AttributeStore) (r : Response) :
    (ReplyFormat.basic.render packCost attributes r).toList =
      linesText (shownLines (replyHeads packCost r) (r.documents.map (shownFields attributes))) := by
  rw [← basicLines_eq]
  exact toList_join_lines _

lemma readsByLine_of_unbroken {text : String} (htext : text.toList = linesText (shownLines heads documents))
    (hheads : ∀ head ∈ heads, '\n' ∉ writtenPair head)
    (hdocuments : ∀ pairs ∈ documents, ∀ pair ∈ pairs, '\n' ∉ writtenPair pair ∧ '\t' ∉ writtenPair pair) :
    ReadsByLine text heads documents := by
  have hlines : ∀ line ∈ shownLines heads documents, '\n' ∉ line.toList := by
    simp only [shownLines, List.forall_mem_append, List.forall_mem_map, String.toList_ofList]
    refine ⟨hheads, fun pairs hpairs => notMem_intercalate (by decide) ?_⟩
    rw [List.forall_mem_map]
    exact fun pair hpair => (hdocuments pairs hpairs pair hpair).1
  refine ⟨documents.map fun pairs => ['\t'].intercalate (pairs.map writtenPair), ?_, ?_⟩
  · rw [htext, pieces_linesText hlines]
    simp [shownLines, Function.comp_def, writtenPair]
  · rw [List.map_map]
    refine List.map_congr_left fun pairs hpairs => cells_intercalate ?_ ?_
    · simp [writtenPair_ne_nil]
    · rw [List.forall_mem_map]
      exact fun pair hpair => (hdocuments pairs hpairs pair hpair).2

lemma unbroken_of_readsByLine {text : String} (h : ReadsByLine text heads documents) :
    (∀ head ∈ heads, '\n' ∉ writtenPair head) ∧
      ∀ pairs ∈ documents, ∀ pair ∈ pairs, '\n' ∉ writtenPair pair ∧ '\t' ∉ writtenPair pair := by
  obtain ⟨lines, hpieces, hcells⟩ := h
  -- no piece holds what the text was cut at, so neither does anything that is read back
  have hline : ∀ line ∈ heads.map writtenPair ++ lines, '\n' ∉ line := by
    intro line hmem
    have hpiece : line ∈ pieces '\n' text.toList := hpieces ▸ List.mem_append_left _ hmem
    exact notMem_of_mem_pieces hpiece
  constructor
  · intro head hhead
    exact hline _ (List.mem_append_left _ (List.mem_map_of_mem hhead))
  · intro pairs hpairs pair hpair
    have hmem : pairs.map writtenPair ∈ lines.map cells := hcells ▸ List.mem_map_of_mem hpairs
    obtain ⟨line, hlines, hequal⟩ := List.mem_map.mp hmem
    have hcell : writtenPair pair ∈ cells line := hequal ▸ List.mem_map_of_mem hpair
    have hfeed : '\n' ∉ line := hline line (List.mem_append_right _ hlines)
    exact ⟨fun hc => hfeed (mem_of_mem_cells hcell hc), notMem_of_mem_cells hcell⟩

end Basic

/-- All that a reply shows of the query and of its documents. -/
def shownText (attributes : AttributeStore) (r : Response) : List Char :=
  r.query.toList ++ (r.documents.flatMap (shownFields attributes)).flatMap fun shown =>
    shown.1.toList ++ shown.2.toList

lemma count_shownLines (heads : List (String × String)) (documents : List (List (String × String))) :
    ((shownLines heads documents).flatMap String.toList).count '\n' =
      (heads.flatMap writtenPair).count '\n' + (documents.flatten.flatMap writtenPair).count '\n' := by
  have hdocuments : (documents.flatMap fun pairs => ['\t'].intercalate (pairs.map writtenPair)).count '\n' =
      (documents.flatten.flatMap writtenPair).count '\n' := by
    induction documents with
    | nil => rfl
    | cons pairs documents ih =>
      rw [List.flatMap_cons, List.count_append, ih, count_intercalate (by decide), List.flatten_cons,
        List.flatMap_append, List.count_append, ← List.flatMap_def]
  have hheads : (heads.map fun head => assignment head.1 head.2).flatMap String.toList =
      heads.flatMap writtenPair := List.flatMap_map ..
  rw [← hdocuments, ← hheads, ← List.count_append]
  simp [shownLines, List.flatMap_map]

lemma count_flatMap_writtenPair (pairs : List (String × String)) :
    (pairs.flatMap writtenPair).count '\n' =
      (pairs.flatMap fun pair => pair.1.toList ++ pair.2.toList).count '\n' := by
  simp only [List.count_flatMap, Function.comp_def, count_writtenPair]

lemma count_replyHeads (packCost : Nat) (r : Response) :
    ((replyHeads packCost r).flatMap writtenPair).count '\n' = r.query.toList.count '\n' := by
  have hnumber : ∀ n : Nat, (toString n).toList.count '\n' = 0 :=
    fun n => List.count_eq_zero.mpr (notMem_toString (by decide) n)
  have hcost : ∀ n : Nat, (costText n).toList.count '\n' = 0 :=
    fun n => List.count_eq_zero.mpr (notMem_costText n)
  rw [count_flatMap_writtenPair]
  simp only [replyHeads, summary, List.cons_append, List.nil_append, List.flatMap_cons, List.flatMap_nil,
    List.count_append, hnumber, hcost]
  simp

/-- A reply in plain text can be read line by line and cell by cell exactly when the query holds no line feed and
no name and no value of a returned document holds a line feed or a tab. Every line feed that is shown makes one
line more. -/
theorem basic_reply_is_read_by_line_iff (packCost : Nat) (attributes : AttributeStore) (r : Response) :
    (replyHeads packCost r).length = 7 ∧
      (ReadsByLine (ReplyFormat.basic.render packCost attributes r) (replyHeads packCost r)
          (r.documents.map (shownFields attributes)) ↔
        '\n' ∉ r.query.toList ∧
          ∀ ordinal ∈ r.documents, ∀ shown ∈ shownFields attributes ordinal,
            Unbroken shown.1 ∧ Unbroken shown.2) ∧
      (ReplyFormat.basic.render packCost attributes r).toList.count '\n' =
        7 + r.documents.length + (shownText attributes r).count '\n' := by
  have htext := toList_render_basic packCost attributes r
  refine ⟨rfl, ?_, ?_⟩
  · rw [← forall_mem_replyHeads_iff packCost r]
    simp only [← unbroken_pair_iff]
    constructor
    · intro h
      obtain ⟨hheads, hdocuments⟩ := unbroken_of_readsByLine h
      exact ⟨hheads, List.forall_mem_map.mp hdocuments⟩
    · rintro ⟨hheads, hdocuments⟩
      exact readsByLine_of_unbroken htext hheads (List.forall_mem_map.mpr hdocuments)
  · have hlength : (shownLines (replyHeads packCost r) (r.documents.map (shownFields attributes))).length =
        7 + r.documents.length := by
      simp only [shownLines, List.length_append, List.length_map]
      rfl
    rw [htext, count_linesText, hlength, count_shownLines, count_replyHeads, count_flatMap_writtenPair, shownText,
      List.count_append, List.flatMap_def (f := shownFields attributes)]

/-- The lines of a query pass for parts of the summary. -/
theorem basic_reply_with_a_query_of_two_lines :
    ¬ ReadsByLine (ReplyFormat.basic.render 0 {} { query := "cat\ntotal_found=99" })
      (replyHeads 0 { query := "cat\ntotal_found=99" }) [] := by
  intro h
  have hquery := (unbroken_of_readsByLine h).1 ("query", "cat\ntotal_found=99") List.mem_cons_self
  exact hquery (by decide)

end TextSearch.Proofs
