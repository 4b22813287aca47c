import Mathlib.Tactic.Lemma
import TextSearch.Proofs.JsonGrammar
import TextSearch.Proofs.JsonMembers
import TextSearch.Proofs.Outcomes
import TextSearch.Proofs.TextPieces
import TextSearch.Proofs.Utf8Texts
import TextSearch.Row.JsonLines

/-!
# Rows in lines

A line that spells an object between blanks gives a row of its own, wherever it stands in a file. The row has the
raw text of the last value of each name.
-/

namespace TextSearch.Proofs
open JsonLines Json Utf8 Unicode

/-! ### Lines -/

/-- Adds a byte to the first of the lines that follow; a line feed stands at the end of its own. -/
def consByte (b : UInt8) : List (List UInt8) → List (List UInt8)
  | [] => [[b]]
  | line :: lines => if b = lineFeed then [b] :: line :: lines else (b :: line) :: lines

/-- The lines of some bytes, each with its line feed. The last one may lack it. -/
def lines (bytes : List UInt8) : List (List UInt8) := bytes.foldr consByte []

/-- The results of some lines after `count` lines of text. -/
def resultsFrom (count : Nat) : List (List UInt8) → RowSource
  | [] => []
  | line :: rest =>
    match decodeChars line with
    | .error _ => .error (.io "stream did not contain valid UTF-8") :: resultsFrom count rest
    | .ok cs =>
      if (trimBlanks cs).isEmpty then resultsFrom (count + 1) rest
      else rowOfLine (count + 1) (trimBlanks cs) :: resultsFrom (count + 1) rest

/-- Whether bytes end where a line ends. -/
def EndsLine (bytes : List UInt8) : Prop := bytes = [] ∨ bytes.getLast? = some lineFeed

lemma consByte_append {b : UInt8} {xs : List (List UInt8)} (h : xs ≠ []) (ys : List (List UInt8)) :
    consByte b (xs ++ ys) = consByte b xs ++ ys := by
  cases xs with
  | nil => exact absurd rfl h
  | cons line xs =>
    rw [List.cons_append, consByte, consByte]
    split_ifs <;> rfl

lemma consByte_lineFeed (xs : List (List UInt8)) : consByte lineFeed xs = [lineFeed] :: xs := by
  cases xs with
  | nil => rfl
  | cons line xs => rw [consByte, if_pos rfl]

lemma lines_cons (b : UInt8) (bytes : List UInt8) : lines (b :: bytes) = consByte b (lines bytes) := rfl

lemma lines_ne_nil {bytes : List UInt8} (h : bytes ≠ []) : lines bytes ≠ [] := by
  cases bytes with
  | nil => exact absurd rfl h
  | cons b bytes =>
    rw [lines_cons]
    cases lines bytes with
    | nil => exact List.cons_ne_nil _ _
    | cons line rest =>
      rw [consByte]
      split_ifs <;> exact List.cons_ne_nil _ _

lemma lines_append {front : List UInt8} (h : EndsLine front) (back : List UInt8) :
    lines (front ++ back) = lines front ++ lines back := by
  induction front with
  | nil => rfl
  | cons b front ih =>
    rw [List.cons_append, lines_cons, lines_cons]
    cases front with
    | nil =>
      obtain rfl : b = lineFeed := by simpa [EndsLine] using h
      rw [List.nil_append, consByte_lineFeed, consByte_lineFeed]
      rfl
    | cons c front =>
      have hlast : EndsLine (c :: front) := .inr (by simpa [EndsLine] using h)
      rw [ih hlast, consByte_append (lines_ne_nil (List.cons_ne_nil _ _))]

lemma lines_of_notMem {line : List UInt8} (h : lineFeed ∉ line) :
    lines (line ++ [lineFeed]) = [line ++ [lineFeed]] := by
  induction line with
  | nil => rfl
  | cons b line ih =>
    obtain ⟨hb, hline⟩ := List.ne_and_not_mem_of_not_mem_cons h
    rw [List.cons_append, lines_cons, ih hline, consByte, if_neg (Ne.symm hb)]

lemma lines_last_of_notMem {line : List UInt8} (h : lineFeed ∉ line) (hne : line ≠ []) : lines line = [line] := by
  induction line with
  | nil => exact absurd rfl hne
  | cons b line ih =>
    obtain ⟨hb, hline⟩ := List.ne_and_not_mem_of_not_mem_cons h
    cases line with
    | nil => rfl
    | cons c line => rw [lines_cons, ih hline (List.cons_ne_nil _ _), consByte, if_neg (Ne.symm hb)]

lemma lineFeed_notMem_utf8EncodeChar {c : Char} (h : c ≠ '\n') : lineFeed ∉ String.utf8EncodeChar c := by
  have hne : c.val.toNat ≠ 10 := by
    intro heq
    apply h
    rw [← Char.ofNat_toNat c]
    exact congrArg Char.ofNat heq
  have hbyte : ∀ v < 256, v ≠ 10 → lineFeed ≠ UInt8.ofNat v := by
    intro v hv hne heq
    have hsame := congrArg UInt8.toNat heq
    rw [UInt8.toNat_ofNat_of_lt' hv] at hsame
    exact hne hsame.symm
  unfold String.utf8EncodeChar
  generalize c.val.toNat = v at hne
  dsimp only
  -- The bytes of a character that has several of them are all beyond those of the characters with one.
  split_ifs with h1 h2 h3 <;> simp only [List.mem_cons, List.not_mem_nil, or_false, not_or]
  · exact hbyte v (by omega) hne
  · exact ⟨hbyte _ (by omega) (by omega), hbyte _ (by omega) (by omega)⟩
  · exact ⟨hbyte _ (by omega) (by omega), hbyte _ (by omega) (by omega), hbyte _ (by omega) (by omega)⟩
  · exact ⟨hbyte _ (by omega) (by omega), hbyte _ (by omega) (by omega), hbyte _ (by omega) (by omega),
      hbyte _ (by omega) (by omega)⟩

lemma lineFeed_notMem_encode {s : String} (h : '\n' ∉ s.toList) : lineFeed ∉ encode s := by
  intro hmem
  obtain ⟨c, hc, hfeed⟩ := List.mem_flatMap.mp hmem
  exact lineFeed_notMem_utf8EncodeChar (fun heq => h (heq ▸ hc)) hfeed

/-! ### Rows -/

/-- The first line is cut off at its line feed. -/
lemma lines_eq_cons {bytes : List UInt8} (h : bytes ≠ []) :
    lines bytes = (splitLine bytes).1 :: lines (splitLine bytes).2 := by
  induction bytes with
  | nil => exact absurd rfl h
  | cons b bytes ih =>
    rw [lines_cons, splitLine]
    split_ifs with hb
    · rw [hb, consByte_lineFeed]
    · cases bytes with
      | nil => rfl
      | cons c bytes => rw [ih (List.cons_ne_nil _ _), consByte, if_neg hb]

section Reading

variable {r : LineReader}

lemma readLine_clear (r : LineReader) :
    r.clear.readLine = match decodeChars (splitLine r.unread).1 with
      | .error _ => (.error (.io "stream did not contain valid UTF-8"), ⟨(splitLine r.unread).2, r.count, []⟩)
      | .ok cs => (.ok (splitLine r.unread).1.length, ⟨(splitLine r.unread).2, r.count, cs⟩) := rfl

lemma nextRow_of_nil (h : r.unread = []) : r.nextRow = (.ok none, ⟨[], r.count, []⟩) := by
  have hread : r.clear.readLine = (.ok 0, ⟨[], r.count, []⟩) := by
    rw [readLine_clear, h, splitLine, decodeChars]
    rfl
  rw [LineReader.nextRow]
  split <;> simp_all

/-- What a reader does with the first line that is left. The text that it read before makes no difference. -/
lemma nextRow_of_ne_nil (h : r.unread ≠ []) :
    r.nextRow = match decodeChars (splitLine r.unread).1 with
      | .error _ => (.error (.io "stream did not contain valid UTF-8"), ⟨(splitLine r.unread).2, r.count, []⟩)
      | .ok cs =>
        let next : LineReader := ⟨(splitLine r.unread).2, r.count + 1, cs⟩
        if (trimBlanks cs).isEmpty then next.nextRow
        else ((rowOfLine (r.count + 1) (trimBlanks cs)).map some, next) := by
  have hpos : 0 < (splitLine r.unread).1.length := List.length_pos_iff.mpr (splitLine_ne_nil h)
  obtain ⟨n, hn⟩ := Nat.exists_eq_add_one.mpr hpos
  have hread := readLine_clear r
  rw [hn] at hread
  rw [LineReader.nextRow]
  cases hcs : decodeChars (splitLine r.unread).1 with
  | error fault =>
    rw [hcs] at hread
    split <;> simp_all
  | ok cs =>
    rw [hcs] at hread
    split <;> simp_all

/-- A reader takes one line after the other. -/
lemma rows_eq_resultsFrom (r : LineReader) : r.rows = resultsFrom r.count (lines r.unread) := by
  -- by the bytes that are left, as a blank line is passed over within a call
  induction hlength : r.unread.length using Nat.strong_induction_on generalizing r with
  | _ n ih =>
    by_cases hnil : r.unread = []
    · rw [LineReader.rows_of_none (nextRow_of_nil hnil), hnil]
      rfl
    · have hrest : ∀ count buffer, (⟨(splitLine r.unread).2, count, buffer⟩ : LineReader).rows =
          resultsFrom count (lines (splitLine r.unread).2) := fun count buffer =>
        ih _ (hlength ▸ length_splitLine hnil) ⟨(splitLine r.unread).2, count, buffer⟩ rfl
      have hnext := nextRow_of_ne_nil hnil
      rw [lines_eq_cons hnil, resultsFrom]
      cases hcs : decodeChars (splitLine r.unread).1 with
      | error fault =>
        rw [hcs] at hnext
        rw [LineReader.rows_of_error hnext, hrest]
      | ok cs =>
        rw [hcs] at hnext
        dsimp only at hnext ⊢
        split_ifs at hnext ⊢ with hblank
        · rw [LineReader.rows_of_nextRow_eq hnext, hrest]
        · cases hrow : rowOfLine (r.count + 1) (trimBlanks cs) with
          | error e =>
            rw [hrow] at hnext
            rw [LineReader.rows_of_error hnext, hrest]
          | ok row =>
            rw [hrow] at hnext
            rw [LineReader.rows_of_row hnext, hrest]

end Reading

lemma rows_eq (bytes : List UInt8) : rows bytes = resultsFrom 0 (lines bytes) := rows_eq_resultsFrom _

lemma rows_nil : rows [] = [] := rows_eq []

lemma resultsFrom_append (count : Nat) (front : List (List UInt8)) :
    ∃ later, ∀ back, resultsFrom count (front ++ back) = resultsFrom count front ++ resultsFrom later back := by
  induction front generalizing count with
  | nil => exact ⟨count, fun back => rfl⟩
  | cons line front ih =>
    simp only [List.cons_append, resultsFrom]
    cases Utf8.decodeChars line with
    | error fault =>
      obtain ⟨later, hlater⟩ := ih count
      exact ⟨later, fun back => by simp [hlater]⟩
    | ok cs =>
      obtain ⟨later, hlater⟩ := ih (count + 1)
      refine ⟨later, fun back => ?_⟩
      simp only [hlater]
      split_ifs <;> simp

lemma decodeChars_encode (s : String) : decodeChars (encode s) = .ok s.toList := by
  obtain ⟨cs, hcs, hs⟩ := map_eq_ok_iff.mp (decode_encode_text s)
  rw [hcs, ← hs, String.toList_ofList]

/-- The row with the raw text of the last value of each name. -/
def rowOf (members : List (String × JsonValue)) : Row :=
  (sortMembers members).map fun member => (member.1, rawText member.2)

lemma text?_eq_head? (row : Row) (name : String) : row.text? name = (itemsFor name row).head? := by
  rw [itemsFor, List.head?_map, List.head?_filter]
  rfl

lemma mem_columns_rowOf_iff {members : List (String × JsonValue)} {name : String} :
    name ∈ (rowOf members).columns ↔ name ∈ members.map Prod.fst := by
  have hnames : (rowOf members).columns = (sortMembers members).map Prod.fst := by
    unfold rowOf Row.columns
    rw [List.map_map]
    rfl
  rw [hnames, (map_fst_sortMembers_perm members).mem_iff, List.mem_dedup]

lemma text?_rowOf_of_notMem {members : List (String × JsonValue)} {name : String} (h : name ∉ members.map Prod.fst) :
    (rowOf members).text? name = none := by
  rw [text?_eq_head?, List.head?_eq_none_iff]
  by_contra hne
  exact h (mem_columns_rowOf_iff.mp (itemsFor_ne_nil_iff.mp hne))

lemma text?_rowOf {members : List (String × JsonValue)} {name : String} {value : JsonValue}
    (h : (itemsFor name members).getLast? = some value) : (rowOf members).text? name = some (rawText value) := by
  have hnames := (ascending_sortMembers members).nodup_names
  have hvalue : itemsFor name (sortMembers members) = [value] :=
    itemsFor_eq_singleton hnames (mem_sortMembers_iff.mpr h)
  rw [text?_eq_head?, rowOf, itemsFor_map, hvalue]
  rfl

/-- Whether a line spells an object with some members, with blanks around it. -/
def SpellsRow (members : List (String × JsonValue)) (line : List Char) : Prop :=
  ∃ depth before body after, Blanks before ∧ Spells depth (.members members) body ∧ Blanks after ∧
    depth + 1 < nestingLimit ∧ line = before ++ '\x7b' :: body ++ after

lemma Spells.exists_bracket {depth : Nat} {members : List (String × JsonValue)} {text : List Char}
    (h : Spells depth (.members members) text) : ∃ front, text = front ++ ['\x7d'] := by
  generalize hphrase : Phrase.members members = phrase at h
  induction h generalizing members with
  | @lastMember _ _ _ front text => exact ⟨front ++ ':' :: text, by simp⟩
  | @nextMember _ _ _ _ front text _ _ _ _ _ ih =>
    obtain ⟨more, rfl⟩ := ih rfl
    exact ⟨front ++ ':' :: (text ++ ',' :: more), by simp⟩
  | _ => cases hphrase

/-- A line from which a row is read. -/
structure GivesRow (row : Row) (line : List Char) : Prop where
  notBlank : trimBlanks line ≠ []
  rowOfLine : ∀ number, JsonLines.rowOfLine number (trimBlanks line) = .ok row

section Lines

variable {row : Row} {line : List Char}

lemma GivesRow.append {blanks : List Char} (h : GivesRow row line) (hblanks : Blanks blanks) :
    GivesRow row (line ++ blanks) := by
  have htrim : trimBlanks (line ++ blanks) = trimBlanks line := trimBlanks_padded (List.forall_mem_nil _) hblanks line
  refine ⟨?_, fun number => ?_⟩
  · rw [htrim]
    exact h.notBlank
  · rw [htrim]
    exact h.rowOfLine number

lemma GivesRow.resultsFrom_cons {text : String} (h : GivesRow row text.toList) (count : Nat)
    (back : List (List UInt8)) :
    resultsFrom count (encode text :: back) = .ok row :: resultsFrom (count + 1) back := by
  simp [resultsFrom, decodeChars_encode, h.notBlank, h.rowOfLine]

lemma GivesRow.encode_ne_nil {text : String} (h : GivesRow row text.toList) : encode text ≠ [] := by
  intro hnil
  have hchars := decodeChars_encode text
  rw [hnil, decodeChars] at hchars
  apply h.notBlank
  rw [← Except.ok.inj hchars]
  rfl

/-- The line feed behind a text is part of its line, as one more blank. -/
lemma GivesRow.exists_line {text : String} (h : GivesRow row text.toList) (hline : '\n' ∉ text.toList)
    {back : List UInt8} (hback : back = [] ∨ back.head? = some lineFeed) :
    ∃ whole rest, GivesRow row whole.toList ∧ lines (encode text ++ back) = encode whole :: rest := by
  have hfeed : lineFeed ∉ encode text := lineFeed_notMem_encode hline
  cases back with
  | nil =>
    refine ⟨text, [], h, ?_⟩
    rw [List.append_nil, lines_last_of_notMem hfeed h.encode_ne_nil]
  | cons b back =>
    obtain rfl : b = lineFeed := by simpa using hback
    have hwhole : encode (text ++ "\n") = encode text ++ [lineFeed] := by
      unfold encode
      rw [String.toList_append, List.flatMap_append]
      rfl
    have hends : EndsLine (encode text ++ [lineFeed]) := .inr (by simp)
    refine ⟨text ++ "\n", lines back, ?_, ?_⟩
    · rw [String.toList_append]
      exact h.append (by decide)
    · rw [List.append_cons, lines_append hends, lines_of_notMem hfeed, hwhole]
      rfl

/-- A line gives its row, whatever stands in the lines around it. -/
lemma GivesRow.rows {text : String} (h : GivesRow row text.toList) (hline : '\n' ∉ text.toList)
    {front back : List UInt8} (hfront : EndsLine front) (hback : back = [] ∨ back.head? = some lineFeed) :
    ∃ rest, JsonLines.rows (front ++ (encode text ++ back)) = JsonLines.rows front ++ .ok row :: rest := by
  obtain ⟨later, hlater⟩ := resultsFrom_append 0 (lines front)
  obtain ⟨whole, rest, hwhole, hlines⟩ := h.exists_line hline hback
  refine ⟨resultsFrom (later + 1) rest, ?_⟩
  rw [rows_eq, rows_eq, lines_append hfront, hlater, hlines, hwhole.resultsFrom_cons]

end Lines

lemma givesRow_of_parse? {members : List (String × JsonValue)} {before body after : List Char} (hbefore : Blanks before)
    (hafter : Blanks after) (hparse : parse? ('\x7b' :: (body ++ ['\x7d'])) = some (.object (sortMembers members))) :
    GivesRow (rowOf members) (before ++ '\x7b' :: (body ++ ['\x7d']) ++ after) := by
  have htrim : trimBlanks (before ++ '\x7b' :: (body ++ ['\x7d']) ++ after) = '\x7b' :: (body ++ ['\x7d']) := by
    apply trimBlanks_between hbefore hafter (List.cons_ne_nil _ _)
    · simp only [List.head?_cons, Option.any_some]
      decide
    · rw [← List.cons_append, List.getLast?_concat, Option.any_some]
      decide
  refine ⟨?_, fun number => ?_⟩
  · rw [htrim]
    exact List.cons_ne_nil _ _
  · unfold JsonLines.rowOfLine
    rw [htrim, hparse]
    rfl

section Row

variable {members : List (String × JsonValue)} {line : List Char}

lemma SpellsRow.givesRow (h : SpellsRow members line) : GivesRow (rowOf members) line := by
  obtain ⟨depth, before, body, after, hbefore, hbody, hafter, hdepth, rfl⟩ := h
  have hparse : parse? ('\x7b' :: body) = some (.object (sortMembers members)) := parse?_of_spells hbody.object hdepth
  obtain ⟨front, rfl⟩ := hbody.exists_bracket
  exact givesRow_of_parse? hbefore hafter hparse

/-- A line that spells an object gives its row, whatever stands in the lines around it. -/
lemma SpellsRow.rows {text : String} (h : SpellsRow members text.toList) (hline : '\n' ∉ text.toList)
    {front back : List UInt8} (hfront : EndsLine front) (hback : back = [] ∨ back.head? = some lineFeed) :
    ∃ rest, JsonLines.rows (front ++ (encode text ++ back)) = JsonLines.rows front ++ .ok (rowOf members) :: rest :=
  h.givesRow.rows hline hfront hback

end Row

end TextSearch.Proofs
