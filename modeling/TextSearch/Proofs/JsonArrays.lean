import TextSearch.Proofs.BuilderHistories
import TextSearch.Proofs.FilterTexts
import TextSearch.Proofs.JsonIntegers

/-!
# Arrays in rows

A multi attribute takes from a nested array in a row the whole numbers in it, in order. Nulls, empty arrays and
missing columns hold none.
-/

namespace TextSearch.Proofs
open Json Decimal Text Unicode

/-! ### What columns hold -/

/-- Digits of a number that a word holds, with blanks around them. -/
def PrintsWord (word : UInt32) (slot : List Char) : Prop :=
  ∃ before digits after, Blanks before ∧ Blanks after ∧ IsDigits digits ∧
    Nat.ofDigits 10 (placeValues digits) = word.toNat ∧ slot = before ++ digits ++ after

/-- The numbers that a value holds, from left to right. A text holds those between its commas. -/
inductive HoldsWords : JsonValue → List UInt32 → Prop
  | null : HoldsWords .null []
  | number (word : UInt32) : HoldsWords (.number (.integer word.toNat)) [word]
  | text {s : String} {words : List UInt32} {slots : List (List Char)} (h : Interspersed PrintsWord Blanks words slots)
      (htext : s.toList = [','].intercalate slots) : HoldsWords (.string s) words
  | noItems : HoldsWords (.array []) []
  | nextItem {value : JsonValue} {items : List JsonValue} {words more : List UInt32} (h : HoldsWords value words)
      (hitems : HoldsWords (.array items) more) : HoldsWords (.array (value :: items)) (words ++ more)

/-- The last value of a name counts, and a name without a value holds nothing. -/
def ColumnHolds (members : List (String × JsonValue)) (name : String) (words : List UInt32) : Prop :=
  match (itemsFor name members).getLast? with
  | none => words = []
  | some value => HoldsWords value words

/-! ### What a multi attribute takes -/

section Words

variable {word : UInt32} {words : List UInt32} {slot : List Char} {slots : List (List Char)}

lemma printsWord_toDigits (word : UInt32) {before after : List Char} (hbefore : Blanks before) (hafter : Blanks after) :
    PrintsWord word (before ++ Nat.toDigits 10 word.toNat ++ after) := by
  have hdigits : IsDigits (Nat.toDigits 10 word.toNat) :=
    ⟨List.ne_nil_of_length_pos Nat.length_toDigits_pos, fun c hc => isDigit_of_mem_toDigits hc⟩
  have hvalue : Nat.ofDigits 10 (placeValues (Nat.toDigits 10 word.toNat)) = word.toNat := by
    rw [← digitsValue_eq_ofDigits, digitsValue_toDigits]
  exact ⟨before, _, after, hbefore, hafter, hdigits, hvalue, rfl⟩

lemma unsignedValue_of_isDigits {digits : List Char} (h : IsDigits digits)
    (hword : digitsValue 0 digits = word.toNat) : unsignedValue digits = word := by
  have hsigns : ∀ c ∈ digits ++ [], IsNumberSign c := by
    rw [List.append_nil]
    exact fun c hc => .inl (h.2 c hc)
  have hvalue := unsignedValue_of_digits h.1 h.2 (by simp) hsigns
  rw [List.append_nil, hword] at hvalue
  have hlt : word.toNat < UInt32.size := UInt32.toNat_lt_size word
  apply UInt32.toNat_inj.mp
  omega

lemma PrintsWord.trim (h : PrintsWord word slot) : trimBlanks slot ≠ [] ∧ unsignedValue (trimBlanks slot) = word := by
  obtain ⟨before, digits, after, hbefore, hafter, hdigits, hvalue, rfl⟩ := h
  have htrim : trimBlanks (before ++ digits ++ after) = digits := by
    rw [trimBlanks_padded hbefore hafter]
    exact trimBlanks_of_signs fun c hc => .inl (hdigits.2 c hc)
  rw [htrim]
  exact ⟨hdigits.1, unsignedValue_of_isDigits hdigits (by rw [digitsValue_eq_ofDigits, hvalue])⟩

lemma PrintsWord.notMem (h : PrintsWord word slot) : ',' ∉ slot := by
  obtain ⟨before, digits, after, hbefore, hafter, hdigits, -, rfl⟩ := h
  have hcomma : isBlank ',' = false := by decide
  simp only [List.mem_append, not_or]
  refine ⟨⟨hbefore.notMem hcomma, fun hmem => ?_⟩, hafter.notMem hcomma⟩
  exact absurd (hdigits.2 ',' hmem) (by decide)

lemma multiValues_eq_filterMap (cs : List Char) : multiValues cs = (pieces ',' cs).filterMap fun piece =>
    if Blanks piece then none else some (unsignedValue (trimBlanks piece)) := by
  rw [multiValues, trimmedPieces_eq_filterMap, List.map_filterMap]
  refine List.filterMap_congr fun piece _ => ?_
  by_cases h : Blanks piece <;> simp [h]

lemma multiValues_nil : multiValues [] = [] := rfl

lemma multiValues_append (a b : List Char) : multiValues (a ++ ',' :: b) = multiValues a ++ multiValues b := by
  simp only [multiValues_eq_filterMap, pieces_append, List.filterMap_append]

lemma multiValues_of_interspersed (h : Interspersed PrintsWord Blanks words slots) :
    multiValues ([','].intercalate slots) = words := by
  have hfree : ∀ slot ∈ slots, ',' ∉ slot :=
    h.forall_slots (fun _ _ _ hslot => hslot.notMem) fun _ hblank => hblank.notMem (by decide)
  rw [multiValues_eq_filterMap, filterMap_pieces_intercalate (if_pos (List.forall_mem_nil _)) hfree]
  have hwords : slots.filterMap (fun piece => if Blanks piece then none else some (unsignedValue (trimBlanks piece))) =
      words.map id := by
    refine h.filterMap_eq (fun word _ slot hslot => ?_) fun slot hblank => if_pos hblank
    obtain ⟨hne, hvalue⟩ := hslot.trim
    rw [if_neg (mt trimBlanks_eq_nil_iff.mpr hne), hvalue, id]
  rw [hwords, List.map_id]

/-- The items of an array are taken one after the other, whatever they hold. -/
lemma multiValues_rawText_cons (value : JsonValue) (items : List JsonValue) :
    multiValues (JsonLines.rawText (.array (value :: items))).toList =
      multiValues (JsonLines.rawText value).toList ++ multiValues (JsonLines.rawText (.array items)).toList := by
  have hcomma : ",".toList = [','] := rfl
  simp only [JsonLines.rawText, JsonLines.rawTexts]
  cases items with
  | nil =>
    -- a last item has no comma behind it
    rw [JsonLines.rawTexts, String.intercalate_singleton, String.intercalate_nil, String.toList_empty, multiValues_nil,
      List.append_nil]
  | cons next items =>
    rw [JsonLines.rawTexts, String.intercalate_cons_cons, String.toList_append, String.toList_append, hcomma,
      List.append_assoc, List.singleton_append, multiValues_append]

lemma HoldsWords.multiValues {value : JsonValue} (h : HoldsWords value words) :
    TextSearch.multiValues (JsonLines.rawText value).toList = words := by
  induction h with
  | null => rfl
  | number word =>
    have htext : (JsonLines.rawText (.number (.integer word.toNat))).toList = Nat.toDigits 10 word.toNat :=
      toList_toString word.toNat
    have hprints := printsWord_toDigits word (List.forall_mem_nil _) (List.forall_mem_nil _)
    have hwords := multiValues_of_interspersed (.word hprints .nil)
    rw [htext]
    rwa [List.intercalate_singleton, List.nil_append, List.append_nil] at hwords
  | text h htext => rw [JsonLines.rawText, htext, multiValues_of_interspersed h]
  | noItems => rfl
  | nextItem _ _ ih ihitems => rw [multiValues_rawText_cons, ih, ihitems]

end Words

section Rows

variable {members : List (String × JsonValue)} {schema : Schema} {segmenter : Segmenter}

lemma ColumnHolds.multiValues {name : String} {words : List UInt32} (h : ColumnHolds members name words) :
    TextSearch.multiValues ((rowOf members).raw name).toList = words := by
  unfold ColumnHolds at h
  unfold Row.raw
  cases hlast : (itemsFor name members).getLast? with
  | some value =>
    rw [hlast] at h
    rw [text?_rowOf hlast, Option.getD_some]
    exact h.multiValues
  | none =>
    rw [hlast] at h
    have hnone : name ∉ members.map Prod.fst := by
      rw [← itemsFor_ne_nil_iff, not_ne_iff]
      exact List.getLast?_eq_none_iff.mp hlast
    rw [text?_rowOf_of_notMem hnone, Option.getD_none, h]
    rfl

lemma multi_values_rowOf {words : String → List UInt32}
    (h : ∀ name ∈ schema.multi, ColumnHolds members name (words name)) :
    ((rowOf members).values schema).multi = schema.multi.flatMap words :=
  List.flatMap_congr fun name hname => (h name hname).multiValues

/-- What was taken stands where its ordinal says, whatever was given to the builder later. -/
lemma multi_record_of_mem_takenIn {history : List Feed} {row : Row} {ordinal : Ordinal}
    (h : (row, ordinal) ∈ takenIn (Builder.new schema segmenter) history) :
    (fed (Builder.new schema segmenter) history).index.attributes.multi.record ordinal =
      (row.values schema).multi := by
  have hnumbered := numbered_history schema segmenter history
  obtain ⟨n, hn⟩ := List.mem_iff_getElem?.mp h
  have hordinal : ordinal.toNat = n := by
    have hplace := congrArg (·[n]?) hnumbered.ordinals
    have hlt : n < (takenIn (Builder.new schema segmenter) history).length := (List.getElem?_eq_some_iff.mp hn).1
    rw [List.getElem?_map, hn, List.getElem?_range hlt] at hplace
    exact Option.some.inj hplace
  rw [hnumbered.built.attributes]
  simp [columnsOf, Column.record, hordinal, hn]

lemma lackedColumn?_rowOf (h : ∀ column ∈ schema.columns, column ∈ members.map Prod.fst) :
    lackedColumn? schema (rowOf members) = none := by
  unfold lackedColumn?
  rw [List.find?_eq_none]
  intro column hcolumn
  rw [decide_eq_true_eq, not_not, mem_columns_rowOf_iff]
  exact h column hcolumn

lemma schema_fed (schema : Schema) (segmenter : Segmenter) (history : List Feed) :
    (fed (Builder.new schema segmenter) history).schema = schema :=
  (numbered_history schema segmenter history).built.schema_eq

end Rows

/-- Whether a line spells an object, with blanks around it. It may have no members. -/
def SpellsObject (members : List (String × JsonValue)) (line : List Char) : Prop :=
  SpellsRow members line ∨ members = [] ∧ ∃ before spaces after, Blanks before ∧ Spaces spaces ∧ Blanks after ∧
    line = before ++ '\x7b' :: (spaces ++ ['\x7d']) ++ after

lemma SpellsObject.givesRow {members : List (String × JsonValue)} {line : List Char} (h : SpellsObject members line) :
    GivesRow (rowOf members) line := by
  rcases h with hrow | ⟨rfl, before, spaces, after, hbefore, hspaces, hafter, rfl⟩
  · exact hrow.givesRow
  · have hempty : Spells 1 (.value (.object [])) ('\x7b' :: (spaces ++ ['\x7d'])) := .noMembers hspaces
    exact givesRow_of_parse? hbefore hafter (parse?_of_spells hempty (by decide))

/-- A line that spells an object gives a row, whatever lines stand around it. Where its columns hold numbers, every
document that is made of the row has in its multi record the numbers of the columns one after the other. A builder that
has an ordinal left takes the row if this or an earlier one has all columns. -/
theorem nested_arrays_are_stored_in_order {members : List (String × JsonValue)} {text : String}
    (hobject : SpellsObject members text.toList) (hline : '\n' ∉ text.toList) {front back : List UInt8}
    (hfront : EndsLine front) (hback : back = [] ∨ back.head? = some JsonLines.lineFeed) :
    ∃ row rest, JsonLines.rows (front ++ (Utf8.encode text ++ back)) = JsonLines.rows front ++ .ok row :: rest ∧
      ∀ (schema : Schema) (segmenter : Segmenter) (words : String → List UInt32),
        (∀ name ∈ schema.multi, ColumnHolds members name (words name)) →
        (∀ history ordinal, (row, ordinal) ∈ takenIn (Builder.new schema segmenter) history →
          (fed (Builder.new schema segmenter) history).index.attributes.multi.record ordinal =
            schema.multi.flatMap words) ∧
        ∀ history, (fed (Builder.new schema segmenter) history).documentCount < UInt32.size →
          ((fed (Builder.new schema segmenter) history).checked = true ∨
            ∀ column ∈ schema.columns, column ∈ members.map Prod.fst) →
          ∃ ordinal, (row, ordinal) ∈ takenIn (Builder.new schema segmenter) (history ++ [Feed.addRow row]) := by
  obtain ⟨rest, hrows⟩ := hobject.givesRow.rows hline hfront hback
  refine ⟨rowOf members, rest, hrows, fun schema segmenter words hwords => ⟨?recorded, ?taken⟩⟩
  case recorded =>
    intro history ordinal htaken
    rw [multi_record_of_mem_takenIn htaken, multi_values_rowOf hwords]
  case taken =>
    intro history hcount hcolumns
    have hpasses : (fed (Builder.new schema segmenter) history).checked = true ∨
        lackedColumn? (fed (Builder.new schema segmenter) history).schema (rowOf members) = none := by
      rw [schema_fed]
      exact hcolumns.imp_right lackedColumn?_rowOf
    have hadd := addRow_of_passes hpasses
    rw [if_pos hcount] at hadd
    refine ⟨UInt32.ofNat (fed (Builder.new schema segmenter) history).documentCount, ?_⟩
    rw [takenIn_append]
    simp [takenIn, Feed.taken, hadd]

/-- The text of an object with arrays for two names. -/
def nestedRow : String := "\x7b\"tags\":[1,[null,[]],\"7, 8\"],\"marks\":[[3]]\x7d"

def nestedMembers : List (String × JsonValue) :=
  [("tags", .array [.number (.integer 1), .array [.null, .array []], .string "7, 8"]),
    ("marks", .array [.array [.number (.integer 3)]])]

lemma spellsRow_nestedRow : SpellsRow nestedMembers nestedRow.toList := by
  have hone : Spells 2 (.value (.number (.integer 1))) (Nat.toDigits 10 1) := spells_integer (by decide) 2
  have hthree : Spells 1 (.value (.number (.integer 3))) (Nat.toDigits 10 3) := spells_integer (by decide) 1
  have hnone : Spells 1 (.value (.array [])) ('[' :: ([] ++ [']'])) := .noItems (List.forall_mem_nil _)
  have hnull : Spells 1 (.value .null) "null".toList := .nullWord
  have htext : Spells 2 (.value (.string "7, 8")) (quoted "7, 8").toList := .string (spellsString_quoted "7, 8")
  have hinner := Spells.array (.nextItem hnull (.lastItem hnone))
  have htags := Spells.array (.nextItem hone (.nextItem hinner (.lastItem htext)))
  have hmarks := Spells.array (.lastItem (.array (.lastItem hthree)))
  have hmembers := Spells.nextMember (spellsName_quoted "tags") htags (.lastMember (spellsName_quoted "marks") hmarks)
  refine ⟨3, [], _, [], List.forall_mem_nil _, hmembers, List.forall_mem_nil _, by decide, ?_⟩
  decide +kernel

/-- Numbers stand in nested arrays and in a text, and one column is missing. -/
theorem nested_arrays_are_stored_in_order_two_names :
    let b := Builder.new { multi := ["tags", "other", "marks"] } fun _ => .ok []
    let first : Row := [("tags", ""), ("other", ""), ("marks", "")]
    ∃ (row : Row) (rest : RowSource) (ordinal : Ordinal),
      JsonLines.rows ([] ++ (Utf8.encode nestedRow ++ [])) = JsonLines.rows [] ++ .ok row :: rest ∧
      (row, ordinal) ∈ takenIn b ([Feed.addRow first] ++ [Feed.addRow row]) ∧
      (fed b ([Feed.addRow first] ++ [Feed.addRow row])).index.attributes.multi.record ordinal = [1, 7, 8, 3] := by
  intro b first
  let words : String → List UInt32 := fun name =>
    if name = "tags" then [1, 7, 8] else if name = "marks" then [3] else []
  have hwords : ["tags", "other", "marks"].flatMap words = [1, 7, 8, 3] := by decide
  have htext : HoldsWords (.string "7, 8") [7, 8] := by
    have hseven := printsWord_toDigits 7 (List.forall_mem_nil _) (List.forall_mem_nil _)
    have height := printsWord_toDigits 8 (by decide : Blanks [' ']) (List.forall_mem_nil _)
    exact .text (.word hseven (.word height .nil)) (by decide +kernel)
  have htags : HoldsWords (.array [.number (.integer 1), .array [.null, .array []], .string "7, 8"])
      ([1] ++ (([] ++ ([] ++ [])) ++ ([7, 8] ++ []))) :=
    .nextItem (.number 1) (.nextItem (.nextItem .null (.nextItem .noItems .noItems)) (.nextItem htext .noItems))
  have hmarks : HoldsWords (.array [.array [.number (.integer 3)]]) (([3] ++ []) ++ []) :=
    .nextItem (.nextItem (.number 3) .noItems) .noItems
  have hcolumns : ∀ name ∈ ["tags", "other", "marks"], ColumnHolds nestedMembers name (words name) := by
    simp only [List.forall_mem_cons]
    exact ⟨htags, rfl, hmarks, List.forall_mem_nil _⟩
  obtain ⟨row, rest, hrows, hrecord⟩ :=
    nested_arrays_are_stored_in_order (.inl spellsRow_nestedRow) (by decide) (.inl rfl) (.inl rfl)
  obtain ⟨hstored, htaken⟩ := hrecord { multi := ["tags", "other", "marks"] } (fun _ => .ok []) words hcolumns
  obtain ⟨ordinal, hmem⟩ := htaken [.addRow first] (by decide) (.inl rfl)
  exact ⟨row, rest, ordinal, hrows, hmem, (hstored _ ordinal hmem).trans hwords⟩

end TextSearch.Proofs
