import TextSearch.Proofs.JsonRows
import TextSearch.Proofs.Utf8Decoding

/-!
# Results of lines

Reading rows to the end gives one result for each line that is not blank, in the order of the lines. A result depends on
its own line alone, but for the number by which a message names the line.
-/

namespace TextSearch.Proofs
open JsonLines Json Utf8 Unicode

/-! ### Lines -/

/-- Bytes that are cut behind each line feed. The last line may lack its own. -/
structure AreLines (bytes : List UInt8) (lines : List (List UInt8)) : Prop where
  whole : lines.flatten = bytes
  nonempty : ∀ line ∈ lines, line ≠ []
  oneFeed : ∀ line ∈ lines, lineFeed ∉ line.dropLast
  ended : ∀ line ∈ lines.dropLast, line.getLast? = some lineFeed

lemma lineFeed_notMem_dropLast_splitLine (bytes : List UInt8) : lineFeed ∉ (splitLine bytes).1.dropLast := by
  induction bytes with
  | nil => exact List.not_mem_nil
  | cons b bytes ih =>
    rw [splitLine]
    split_ifs with hb
    · exact List.not_mem_nil
    · by_cases hnil : bytes = []
      · rw [hnil]
        exact List.not_mem_nil
      · dsimp only
        rw [List.dropLast_cons_of_ne_nil (splitLine_ne_nil hnil), List.mem_cons, not_or]
        exact ⟨Ne.symm hb, ih⟩

/-- A line that others follow ends with its line feed. -/
lemma getLast?_splitLine {bytes : List UInt8} (h : (splitLine bytes).2 ≠ []) :
    (splitLine bytes).1.getLast? = some lineFeed := by
  induction bytes with
  | nil => exact absurd rfl h
  | cons b bytes ih =>
    rw [splitLine] at h ⊢
    split_ifs at h ⊢ with hb
    · rw [hb, List.getLast?_singleton]
    · by_cases hnil : bytes = []
      · rw [hnil] at h
        exact absurd rfl h
      · rw [List.getLast?_cons_of_ne_nil (splitLine_ne_nil hnil)]
        exact ih h

lemma areLines_lines (bytes : List UInt8) : AreLines bytes (lines bytes) := by
  induction hlength : bytes.length using Nat.strong_induction_on generalizing bytes with
  | _ n ih =>
    by_cases hnil : bytes = []
    · rw [hnil]
      exact ⟨rfl, List.forall_mem_nil _, List.forall_mem_nil _, List.forall_mem_nil _⟩
    · have hrest := ih _ (hlength ▸ length_splitLine hnil) (splitLine bytes).2 rfl
      rw [lines_eq_cons hnil]
      refine ⟨?_, ?_, ?_, ?_⟩
      · rw [List.flatten_cons, hrest.whole, splitLine_append]
      · exact List.forall_mem_cons.mpr ⟨splitLine_ne_nil hnil, hrest.nonempty⟩
      · exact List.forall_mem_cons.mpr ⟨lineFeed_notMem_dropLast_splitLine bytes, hrest.oneFeed⟩
      · by_cases hlast : (splitLine bytes).2 = []
        · rw [hlast]
          exact List.forall_mem_nil _
        · rw [List.dropLast_cons_of_ne_nil (lines_ne_nil hlast)]
          exact List.forall_mem_cons.mpr ⟨getLast?_splitLine hlast, hrest.ended⟩

/-! ### Results -/

def IsTextLine (line : List UInt8) : Prop := ∃ s, line = encode s

instance : DecidablePred IsTextLine := fun line =>
  match h : decode line with
  | .ok s => isTrue ⟨s, decode_eq_ok_iff.mp h⟩
  | .error _ => isFalse fun ⟨_, hs⟩ => by simp [decode_eq_ok_iff.mpr hs] at h

def IsBlankLine (line : List UInt8) : Prop := ∃ s, line = encode s ∧ Blanks s.toList

instance : DecidablePred IsBlankLine := fun line =>
  match h : decode line with
  | .ok s => decidable_of_iff (Blanks s.toList) (by simp [IsBlankLine, ← decode_eq_ok_iff, h])
  | .error _ => isFalse fun ⟨_, hs, _⟩ => by simp [decode_eq_ok_iff.mpr hs] at h

lemma IsBlankLine.isTextLine {line : List UInt8} (h : IsBlankLine line) : IsTextLine line := by
  obtain ⟨s, hs, -⟩ := h
  exact ⟨s, hs⟩

/-- What a line gives that is not blank: the row of its object, or what is wrong with it. -/
inductive Gives (number : Nat) : List UInt8 → Except SearchError Row → Prop
  | noText {line : List UInt8} (h : ¬IsTextLine line) :
      Gives number line (.error (.io "stream did not contain valid UTF-8"))
  | noJson {s : String} (h : parse? (trimBlanks s.toList) = none) :
      Gives number (encode s) (.error (.json refusal))
  | noObject {s : String} {value : JsonValue} (h : parse? (trimBlanks s.toList) = some value)
      (hvalue : ∀ members, value ≠ .object members) :
      Gives number (encode s) (.error (.source s!"line {number}: expected a JSON object"))
  | row {s : String} {members : List (String × JsonValue)} (h : parse? (trimBlanks s.toList) = some (.object members)) :
      Gives number (encode s) (.ok (members.map fun member => (member.1, rawText member.2)))

lemma gives_rowOfLine (number : Nat) (s : String) :
    Gives number (encode s) (rowOfLine number (trimBlanks s.toList)) := by
  unfold rowOfLine
  split
  · rename_i h
    exact .noJson h
  · rename_i members h
    exact .row h
  · rename_i value hvalue h
    exact .noObject h hvalue

lemma decodeChars_cases (line : List UInt8) :
    (∃ fault, decodeChars line = .error fault ∧ ¬IsTextLine line) ∨
      ∃ s : String, decodeChars line = .ok s.toList ∧ line = encode s := by
  cases h : decodeChars line with
  | error fault =>
    refine .inl ⟨fault, rfl, ?_⟩
    rintro ⟨s, rfl⟩
    rw [decodeChars_encode] at h
    cases h
  | ok cs =>
    refine .inr ⟨String.ofList cs, by rw [String.toList_ofList], ?_⟩
    rw [encode, String.toList_ofList]
    exact eq_flatMap_of_decodeChars h

lemma isTextLine_encode (s : String) : IsTextLine (encode s) := ⟨s, rfl⟩

lemma isBlankLine_encode_iff {s : String} : IsBlankLine (encode s) ↔ Blanks s.toList := by
  constructor
  · rintro ⟨t, heq, ht⟩
    have hchars := decodeChars_encode s
    rw [heq, decodeChars_encode, Except.ok.injEq] at hchars
    rwa [← hchars]
  · exact fun h => ⟨s, rfl, h⟩

/-- Every line that is not blank gives its result. The lines of text up to it are its number. -/
lemma forall₂_resultsFrom (front back : List (List UInt8)) :
    List.Forall₂ (fun entry result => Gives (((front ++ back).take (entry.2 + 1)).countP (IsTextLine ·)) entry.1 result)
      ((back.zipIdx front.length).filter fun entry => ¬IsBlankLine entry.1)
      (resultsFrom (front.countP (IsTextLine ·)) back) := by
  -- a line that is read stands among those in front from then on
  induction back generalizing front with
  | nil => exact .nil
  | cons line back ih =>
    have hrest := ih (front ++ [line])
    have htake : (front ++ line :: back).take (front.length + 1) = front ++ [line] := by
      rw [List.append_cons]
      exact List.take_left' (by rw [List.length_append, List.length_singleton])
    rw [List.append_assoc, List.singleton_append, List.length_append, List.length_singleton, List.countP_append,
      List.countP_singleton] at hrest
    rw [List.zipIdx_cons, resultsFrom]
    rcases decodeChars_cases line with ⟨fault, hcs, hline⟩ | ⟨s, hcs, rfl⟩
    · have hblank : ¬IsBlankLine line := fun h => hline h.isTextLine
      rw [if_neg (by simpa using hline)] at hrest
      rw [hcs, List.filter_cons_of_pos (by simpa using hblank)]
      exact .cons (.noText hline) hrest
    · rw [if_pos (by simpa using isTextLine_encode s)] at hrest
      rw [hcs]
      by_cases hblank : Blanks s.toList
      · have htrim : trimBlanks s.toList = [] := trimBlanks_eq_nil_iff.mpr hblank
        rw [List.filter_cons_of_neg (by simpa [isBlankLine_encode_iff] using hblank)]
        simpa [htrim] using hrest
      · have htrim : trimBlanks s.toList ≠ [] := fun h => hblank (trimBlanks_eq_nil_iff.mp h)
        rw [List.filter_cons_of_pos (by simpa [isBlankLine_encode_iff] using hblank)]
        dsimp only
        rw [if_neg (by simpa using htrim)]
        refine .cons ?_ hrest
        dsimp only
        rw [htake, List.countP_append, List.countP_singleton, if_pos (by simpa using isTextLine_encode s)]
        exact gives_rowOfLine _ s

/-! ### Numbers in messages -/

/-- The same result, but for the number by which a message names the line. -/
inductive SameButNumber : Except SearchError Row → Except SearchError Row → Prop
  | same (result : Except SearchError Row) : SameButNumber result result
  | noObject (m n : Nat) :
      SameButNumber (.error (.source s!"line {m}: expected a JSON object"))
        (.error (.source s!"line {n}: expected a JSON object"))

lemma sameButNumber_rowOfLine (m n : Nat) (cs : List Char) : SameButNumber (rowOfLine m cs) (rowOfLine n cs) := by
  unfold rowOfLine
  split
  · exact .same _
  · exact .same _
  · exact .noObject m n

lemma sameButNumber_resultsFrom (m n : Nat) (lines : List (List UInt8)) :
    List.Forall₂ SameButNumber (resultsFrom m lines) (resultsFrom n lines) := by
  induction lines generalizing m n with
  | nil => exact .nil
  | cons line lines ih =>
    rw [resultsFrom, resultsFrom]
    split
    · exact .cons (.same _) (ih m n)
    · split_ifs
      · exact ih (m + 1) (n + 1)
      · exact .cons (sameButNumber_rowOfLine _ _ _) (ih (m + 1) (n + 1))

/-! ### Reading to the end -/

/-- What calls give before the first that gives no row, and the reader that this one leaves. -/
inductive ReadsToEnd : LineReader → RowSource → LineReader → Prop
  | done {r last : LineReader} (h : r.nextRow = (.ok none, last)) : ReadsToEnd r [] last
  | row {r next last : LineReader} {row : Row} {results : RowSource} (h : r.nextRow = (.ok (some row), next))
      (hrest : ReadsToEnd next results last) : ReadsToEnd r (.ok row :: results) last
  | error {r next last : LineReader} {e : SearchError} {results : RowSource} (h : r.nextRow = (.error e, next))
      (hrest : ReadsToEnd next results last) : ReadsToEnd r (.error e :: results) last

lemma readLine_eq_zero {r next : LineReader} (h : r.clear.readLine = (.ok 0, next)) :
    next.unread = [] ∧ next.buffer = [] := by
  by_cases hnil : r.unread = []
  · rw [readLine_clear, hnil, splitLine, decodeChars] at h
    obtain ⟨-, rfl⟩ := Prod.mk.inj h
    exact ⟨rfl, rfl⟩
  · have hpos := List.length_pos_iff.mpr (splitLine_ne_nil hnil)
    rw [readLine_clear] at h
    split at h
    · cases (Prod.mk.inj h).1
    · have hsize := Except.ok.inj (Prod.mk.inj h).1
      omega

/-- No row comes after none. -/
lemma nextRow_of_nextRow_eq_none {r last : LineReader} (h : r.nextRow = (.ok none, last)) :
    last.nextRow = (.ok none, last) := by
  fun_induction LineReader.nextRow r with
  | case1 r e next hread => cases (Prod.mk.inj h).1
  | case2 r next hread =>
    obtain ⟨-, rfl⟩ := Prod.mk.inj h
    obtain ⟨hunread, hbuffer⟩ := readLine_eq_zero hread
    rw [nextRow_of_nil hunread, ← hunread, ← hbuffer]
  | case3 r n next hread number cs hblank ih => exact ih h
  | case4 r n next hread number cs hblank =>
    obtain ⟨hrow, -⟩ := Prod.mk.inj h
    cases hline : rowOfLine number cs <;> rw [hline] at hrow <;> cases hrow

lemma exists_readsToEnd (r : LineReader) : ∃ last, ReadsToEnd r r.rows last ∧ last.nextRow = (.ok none, last) := by
  fun_induction LineReader.rows r with
  | case1 r last hnext => exact ⟨last, .done hnext, nextRow_of_nextRow_eq_none hnext⟩
  | case2 r row next hnext ih =>
    obtain ⟨last, hreads, hlast⟩ := ih
    exact ⟨last, .row hnext hreads, hlast⟩
  | case3 r e next hnext ih =>
    obtain ⟨last, hreads, hlast⟩ := ih
    exact ⟨last, .error hnext hreads, hlast⟩

/-! ### Files in parts -/

lemma sameButNumber_rows (count : Nat) (bytes : List UInt8) :
    List.Forall₂ SameButNumber (resultsFrom count (lines bytes)) (rows bytes) := by
  rw [rows_eq]
  exact sameButNumber_resultsFrom count 0 (lines bytes)

lemma rows_append {front : List UInt8} (hfront : EndsLine front) (back : List UInt8) :
    ∃ results, rows (front ++ back) = rows front ++ results ∧ List.Forall₂ SameButNumber results (rows back) := by
  obtain ⟨later, hlater⟩ := resultsFrom_append 0 (lines front)
  refine ⟨resultsFrom later (lines back), ?_, sameButNumber_rows later back⟩
  rw [rows_eq, rows_eq, lines_append hfront, hlater]

/-- Reading goes on over bad lines up to the end. Each line that is not blank gives the one result that it gives alone,
and the results stand in the order of the lines. -/
theorem each_line_gives_one_result :
    (∀ bytes, AreLines bytes (lines bytes) ∧
      List.Forall₂ (fun entry result => Gives (((lines bytes).take (entry.2 + 1)).countP (IsTextLine ·)) entry.1 result)
        ((lines bytes).zipIdx.filter fun entry => ¬IsBlankLine entry.1) (rows bytes) ∧
      ∃ last, ReadsToEnd (LineReader.ofBytes bytes) (rows bytes) last ∧ last.nextRow = (.ok none, last)) ∧
    (∀ front back, EndsLine front →
      ∃ results, rows (front ++ back) = rows front ++ results ∧ List.Forall₂ SameButNumber results (rows back)) ∧
    ∀ front line back, EndsLine front → EndsLine line →
      ∃ middle results, rows (front ++ (line ++ back)) = rows front ++ (middle ++ results) ∧
        List.Forall₂ SameButNumber middle (rows line) ∧ List.Forall₂ SameButNumber results (rows back) := by
  refine ⟨fun bytes => ⟨areLines_lines bytes, ?_, exists_readsToEnd _⟩,
    fun front back hfront => rows_append hfront back, fun front line back hfront hline => ?_⟩
  · rw [rows_eq]
    exact forall₂_resultsFrom [] (lines bytes)
  · obtain ⟨later, hlater⟩ := resultsFrom_append 0 (lines front)
    obtain ⟨last, hlast⟩ := resultsFrom_append later (lines line)
    refine ⟨resultsFrom later (lines line), resultsFrom last (lines back), ?_,
      sameButNumber_rows later line, sameButNumber_rows last back⟩
    rw [rows_eq, rows_eq, lines_append hfront, lines_append hline, hlater, hlast]

/-- A line that is no text stands between two rows. -/
theorem each_line_gives_one_result_bad_line :
    let row : List UInt8 := encode "\x7b\"a\":1\x7d\n"
    let bad : List UInt8 := [255, lineFeed]
    EndsLine row ∧ EndsLine bad ∧ rows row = [.ok [("a", "1")]] ∧
      rows bad = [.error (.io "stream did not contain valid UTF-8")] ∧
      ∃ middle results, rows (row ++ (bad ++ row)) = rows row ++ (middle ++ results) ∧
        List.Forall₂ SameButNumber middle (rows bad) ∧ List.Forall₂ SameButNumber results (rows row) := by
  intro row bad
  have hrow : EndsLine row := .inr rfl
  have hbad : EndsLine bad := .inr rfl
  have hlines : lines row = [row] := rfl
  have hline : rowOfLine 1 (trimBlanks "\x7b\"a\":1\x7d\n".toList) = .ok [("a", "1")] := by decide +kernel
  have hfault : decodeChars bad = .error (.invalid 0 1) := by
    have hchar : readChar 255 [lineFeed] = .error (.invalid 0 1) := rfl
    rw [decodeChars]
    split <;> simp_all
  refine ⟨hrow, hbad, ?_, ?_, each_line_gives_one_result.2.2 row bad row hrow hbad⟩
  · rw [rows_eq, hlines, resultsFrom, decodeChars_encode]
    dsimp only
    rw [hline]
    rfl
  · have hlinesBad : lines bad = [bad] := rfl
    rw [rows_eq, hlinesBad, resultsFrom, hfault]
    rfl

end TextSearch.Proofs
