import Mathlib.Tactic.Lemma
import TextSearch.Proofs.JsonGrammar
import TextSearch.Proofs.JsonMembers
import TextSearch.Proofs.XmlReplies
import TextSearch.Row.JsonLines

/-!
# Replies in JSON

A reply in JSON is read back as the object that it shows. An object keeps one member of a name, so of the fields with
one name it shows the last, while a reply in XML shows them all.
-/

namespace TextSearch.Proofs
open Json Reply

/-! ### Texts over several lines -/

section Lines

variable {depth : Nat} {blanks ends : List Char}

/-- The items of an array, each on a line of its own. -/
lemma spells_itemLines (hends : Spaces ends) {values : List JsonValue} {lines : List (List Char)}
    (h : List.Forall₂ (fun v line => Spells depth (.value v) ('\n' :: line)) values lines) (hne : values ≠ []) :
    Spells depth (.items values) ('\n' :: ([',', '\n'].intercalate lines ++ ends ++ [']'])) := by
  induction h with
  | nil => exact absurd rfl hne
  | @cons v line values lines hline hrest ih =>
    cases hrest with
    | nil =>
      have hvalue : Spells depth (.value v) ([] ++ ('\n' :: line ++ ends)) := hline.spaced (by simp [Spaces]) hends
      simpa using hvalue.lastItem
    | cons hnext hrest =>
      have hmore := ih (List.cons_ne_nil _ _)
      simpa [List.intercalate_cons_cons] using hline.nextItem hmore

/-- The members of an object, each on a line of its own. -/
lemma spells_memberLines (hends : Spaces ends) {members : List (String × JsonValue)} {lines : List (List Char)}
    (h : List.Forall₂ (fun member line => ∃ front text, SpellsName member.1 ('\n' :: front) ∧
      Spells depth (.value member.2) text ∧ line = front ++ ':' :: text) members lines) (hne : members ≠ []) :
    Spells depth (.members members) ('\n' :: ([',', '\n'].intercalate lines ++ ends ++ ['\x7d'])) := by
  induction h with
  | nil => exact absurd rfl hne
  | @cons member line members lines hline hrest ih =>
    obtain ⟨front, text, hname, hvalue, rfl⟩ := hline
    cases hrest with
    | nil =>
      have hspaced : Spells depth (.value member.2) ([] ++ (text ++ ends)) := hvalue.spaced (by simp [Spaces]) hends
      simpa using Spells.lastMember hname hspaced
    | cons hnext hrest =>
      have hmore := ih (List.cons_ne_nil _ _)
      simpa [List.intercalate_cons_cons] using Spells.nextMember hname hvalue hmore

end Lines

/-- An indentation. -/
def Indent (indent : String) : Prop := Spaces indent.toList

lemma Indent.deeper {indent : String} (h : Indent indent) : Indent (indent ++ "  ") := by
  have hblanks : Spaces "  ".toList := by
    simp [Spaces, isSpace]
  unfold Indent
  rw [String.toList_append]
  exact List.forall_mem_append.mpr ⟨h, hblanks⟩

section Pretty

variable {depth : Nat} {indent : String} {values : List JsonValue} {members : List (String × JsonValue)}

lemma Spells.afterIndent {text : List Char} {v : JsonValue} (hindent : Indent indent)
    (h : Spells depth (.value v) text) :
    Spells depth (.value v) ('\n' :: (indent.toList ++ text)) := by
  have hbefore : Spaces ('\n' :: indent.toList) := List.forall_mem_cons.mpr ⟨by decide, hindent⟩
  have hafter : Spaces [] := by
    simp [Spaces]
  simpa using h.spaced hbefore hafter

lemma prettyItems_eq_map (indent : String) (values : List JsonValue) :
    prettyItems indent values = values.map fun v => indent ++ pretty indent v := by
  induction values with
  | nil => rw [prettyItems, List.map_nil]
  | cons v values ih => rw [prettyItems, ih, List.map_cons]

lemma prettyMembers_eq_map (indent : String) (members : List (String × JsonValue)) :
    prettyMembers indent members =
      members.map fun member => indent ++ quoted member.1 ++ ": " ++ pretty indent member.2 := by
  induction members with
  | nil => rw [prettyMembers, List.map_nil]
  | cons member members ih => rw [prettyMembers, ih, List.map_cons]

lemma Spells.ascending {text : List Char} (hmembers : AscendingMembers members)
    (h : Spells depth (.members members) text) :
    Spells (depth + 1) (.value (.object members)) ('\x7b' :: text) := by
  have hobject := h.object
  rwa [hmembers.sortMembers_eq] at hobject

lemma toList_pretty_array (hne : values ≠ []) :
    (pretty indent (.array values)).toList = '[' :: '\n' :: ([',', '\n'].intercalate
      (values.map fun v => (indent ++ "  ").toList ++ (pretty (indent ++ "  ") v).toList) ++
        '\n' :: indent.toList ++ [']']) := by
  cases values with
  | nil => exact absurd rfl hne
  | cons v values =>
    rw [pretty]
    simp only [prettyItems_eq_map, String.toList_append, String.toList_intercalate, List.map_map, Function.comp_def,
      String.reduceToList, List.cons_append, List.nil_append, List.append_assoc]

lemma toList_pretty_object (hne : members ≠ []) :
    (pretty indent (.object members)).toList = '\x7b' :: '\n' :: ([',', '\n'].intercalate
      (members.map fun member => ((indent ++ "  ").toList ++ (quoted member.1).toList) ++
        ':' :: ' ' :: (pretty (indent ++ "  ") member.2).toList) ++ '\n' :: indent.toList ++ ['\x7d']) := by
  cases members with
  | nil => exact absurd rfl hne
  | cons member members =>
    rw [pretty]
    simp only [prettyMembers_eq_map, String.toList_append, String.toList_intercalate, List.map_map, Function.comp_def,
      String.reduceToList, List.cons_append, List.nil_append, List.append_assoc]

lemma spells_pretty_array (hindent : Indent indent)
    (h : ∀ v ∈ values, Spells depth (.value v) (pretty (indent ++ "  ") v).toList) :
    Spells (depth + 1) (.value (.array values)) (pretty indent (.array values)).toList := by
  by_cases hne : values = []
  · subst hne
    rw [pretty]
    exact .noItems (List.forall_mem_nil _)
  · have hends : Spaces ('\n' :: indent.toList) := List.forall_mem_cons.mpr ⟨by decide, hindent⟩
    rw [toList_pretty_array hne]
    refine .array (spells_itemLines hends ?_ hne)
    rw [List.forall₂_map_right_iff, List.forall₂_same]
    exact fun v hv => (h v hv).afterIndent hindent.deeper

lemma spells_pretty_object (hindent : Indent indent) (hmembers : AscendingMembers members)
    (h : ∀ member ∈ members, Spells depth (.value member.2) (pretty (indent ++ "  ") member.2).toList) :
    Spells (depth + 1) (.value (.object members)) (pretty indent (.object members)).toList := by
  by_cases hne : members = []
  · subst hne
    rw [pretty]
    exact .noMembers (List.forall_mem_nil _)
  · have hends : Spaces ('\n' :: indent.toList) := List.forall_mem_cons.mpr ⟨by decide, hindent⟩
    rw [toList_pretty_object hne]
    refine .ascending hmembers (spells_memberLines hends ?_ hne)
    rw [List.forall₂_map_right_iff, List.forall₂_same]
    intro member hmem
    have hbefore : Spaces ('\n' :: (indent ++ "  ").toList) := List.forall_mem_cons.mpr ⟨by decide, hindent.deeper⟩
    have hvalue : Spells depth (.value member.2) ([' '] ++ ((pretty (indent ++ "  ") member.2).toList ++ [])) :=
      (h member hmem).spaced (by simp [Spaces, isSpace]) (by simp [Spaces])
    rw [List.append_nil, List.singleton_append] at hvalue
    refine ⟨_, _, ⟨_, _, [], hbefore, spellsString_quoted member.1, by simp [Spaces], ?_⟩, hvalue, rfl⟩
    rw [List.append_nil, List.cons_append]

end Pretty

/-! ### Documents -/

/-- The members that a reply in JSON shows of a document with some fields. -/
def jsonItem (fields : Fields) : List (String × JsonValue) :=
  sortMembers (fields.map fun field => (field.1, field.2.toJson))

lemma toList_text_integer (n : Nat) : (JsonNumber.integer n).text.toList = Nat.toDigits 10 n :=
  toList_toString n

lemma spells_toJson (depth : Nat) (indent : String) (value : FieldValue) :
    Spells depth (.value value.toJson) (pretty indent value.toJson).toList := by
  cases value with
  | number n =>
    have hn : n.toNat < UInt64.size := n.toNat_lt.trans (by decide)
    rw [FieldValue.toJson, pretty, toList_text_integer]
    exact spells_integer hn depth
  | text s =>
    rw [FieldValue.toJson, pretty]
    exact .string (spellsString_quoted s)

lemma rawText_toJson (value : FieldValue) : JsonLines.rawText value.toJson = value.toText := by
  cases value with
  | number n => rfl
  | text s => rfl

lemma spells_fieldsObject {indent : String} (hindent : Indent indent) (fields : Fields) :
    Spells 1 (.value (fieldsObject fields)) (pretty indent (fieldsObject fields)).toList := by
  refine spells_pretty_object hindent (ascending_sortMembers _) ?_
  rintro ⟨name, value⟩ hmem
  have hlast := List.mem_of_getLast? (mem_sortMembers_iff.mp hmem)
  obtain ⟨field, -, hfield⟩ := List.mem_map.mp (mem_of_mem_itemsFor hlast)
  rw [← (Prod.mk.inj hfield).2]
  exact spells_toJson 0 _ field.2

section Item

variable {fields : Fields} {name text : String}

/-- Of the fields with one name a document shows the text of the last. -/
lemma exists_mem_jsonItem_iff :
    (∃ value, (name, value) ∈ jsonItem fields ∧ JsonLines.rawText value = text) ↔
      (itemsFor name (fields.map shownField)).getLast? = some text := by
  have hshown : itemsFor name (fields.map shownField) = (itemsFor name fields).map FieldValue.toText :=
    itemsFor_map name fields _
  have hjson : itemsFor name (fields.map fun field => (field.1, field.2.toJson)) =
      (itemsFor name fields).map FieldValue.toJson := itemsFor_map name fields _
  unfold jsonItem
  simp only [mem_sortMembers_iff, hshown, hjson, List.getLast?_map, Option.map_eq_some_iff]
  constructor
  · rintro ⟨_, ⟨value, hvalue, rfl⟩, rfl⟩
    exact ⟨value, hvalue, (rawText_toJson value).symm⟩
  · rintro ⟨value, hvalue, rfl⟩
    exact ⟨value.toJson, ⟨value, hvalue, rfl⟩, rawText_toJson value⟩

/-- Whether an object holds every pair of a name and a text, and no more members than there are pairs. -/
def ShowsAlike (item : List (String × JsonValue)) (shown : List (String × String)) : Prop :=
  (∀ pair ∈ shown, ∃ value, (pair.1, value) ∈ item ∧ JsonLines.rawText value = pair.2) ∧
    item.length = shown.length

lemma showsAlike_jsonItem_iff :
    ShowsAlike (jsonItem fields) (fields.map shownField) ↔ ((fields.map shownField).map Prod.fst).Nodup := by
  have hnames : (fields.map fun field => (field.1, field.2.toJson)).map Prod.fst =
      (fields.map shownField).map Prod.fst := by
    rw [List.map_map, List.map_map]
    rfl
  have hlength := length_sortMembers_eq_iff (fields.map fun field => (field.1, field.2.toJson))
  rw [hnames, List.length_map] at hlength
  unfold ShowsAlike
  rw [List.length_map, jsonItem, hlength, and_iff_right_iff_imp]
  rintro hnodup ⟨name, text⟩ hmem
  apply exists_mem_jsonItem_iff.mpr
  exact (getLast?_itemsFor_eq_some_iff hnodup).mpr hmem

end Item

/-! ### Replies -/

/-- Whether a text is read as an object that shows some items as its documents. -/
def ShowsItems (text : String) (items : List (List (String × JsonValue))) : Prop :=
  ∃ members, parse? text.toList = some (.object members) ∧ ("docs", .array (items.map .object)) ∈ members

section Reply

variable (packCost : Nat) (attributes : AttributeStore) (r : Response)

/-- The documents of a reply. -/
def docsValue : JsonValue := .array (r.documents.map fun ordinal => .object (jsonItem (project attributes ordinal)))

def replyMembers : List (String × JsonValue) :=
  (summary r).map (fun pair => (pair.1, JsonValue.string pair.2)) ++
    [("docs", docsValue attributes r), ("pack_cost", .string (costText packCost))]

lemma render_json :
    ReplyFormat.json.render packCost attributes r =
      pretty "" (.object (sortMembers (replyMembers packCost attributes r))) := by
  have hdocuments : (r.documents.map (project attributes)).map fieldsObject =
      r.documents.map fun ordinal => .object (jsonItem (project attributes ordinal)) := List.map_map
  unfold replyMembers docsValue
  rw [← hdocuments]
  rfl

lemma itemsFor_docs :
    itemsFor "docs" (replyMembers packCost attributes r) = [docsValue attributes r] := by
  simp [replyMembers, summary, itemsFor]

lemma spells_replyMember {indent : String} (hindent : Indent indent) :
    ∀ member ∈ replyMembers packCost attributes r,
      Spells 2 (.value member.2) (pretty indent member.2).toList := by
  have hstring : ∀ s, Spells 2 (.value (.string s)) (pretty indent (.string s)).toList := fun s => by
    rw [pretty]
    exact .string (spellsString_quoted s)
  have hdocs : Spells 2 (.value (docsValue attributes r)) (pretty indent (docsValue attributes r)).toList := by
    apply spells_pretty_array hindent
    rw [List.forall_mem_map]
    exact fun ordinal _ => spells_fieldsObject hindent.deeper (project attributes ordinal)
  intro member hmem
  rcases List.mem_append.mp hmem with hsummary | hrest
  · obtain ⟨pair, -, rfl⟩ := List.mem_map.mp hsummary
    exact hstring pair.2
  · simp only [List.mem_cons, List.not_mem_nil, or_false] at hrest
    rcases hrest with rfl | rfl
    · exact hdocs
    · exact hstring _

lemma parse?_render_json :
    parse? (ReplyFormat.json.render packCost attributes r).toList =
      some (.object (sortMembers (replyMembers packCost attributes r))) := by
  have hindent : Indent "" := by
    simp [Indent, Spaces]
  have hmember : ∀ member ∈ sortMembers (replyMembers packCost attributes r),
      Spells 2 (.value member.2) (pretty ("" ++ "  ") member.2).toList := by
    rintro ⟨name, value⟩ hmem
    have hlast := List.mem_of_getLast? (mem_sortMembers_iff.mp hmem)
    exact spells_replyMember packCost attributes r hindent.deeper _ (mem_of_mem_itemsFor hlast)
  rw [render_json]
  exact parse?_of_spells (spells_pretty_object hindent (ascending_sortMembers _) hmember) (by decide)

/-- A reply in JSON is read as one list of items. -/
lemma showsItems_render_json_iff (items : List (List (String × JsonValue))) :
    ShowsItems (ReplyFormat.json.render packCost attributes r) items ↔
      items = r.documents.map fun ordinal => jsonItem (project attributes ordinal) := by
  have hdocs : ∀ value, ("docs", value) ∈ sortMembers (replyMembers packCost attributes r) ↔
      docsValue attributes r = value := by
    intro value
    rw [mem_sortMembers_iff, itemsFor_docs, List.getLast?_singleton, Option.some.injEq]
  have hobject : Function.Injective JsonValue.object := fun _ _ h => JsonValue.object.inj h
  unfold ShowsItems
  rw [parse?_render_json]
  constructor
  · rintro ⟨members, hparse, hmem⟩
    cases hparse
    have harray := JsonValue.array.inj ((hdocs _).mp hmem)
    apply List.map_injective_iff.mpr hobject
    rw [← harray, List.map_map]
    rfl
  · rintro rfl
    refine ⟨_, rfl, (hdocs _).mpr ?_⟩
    rw [List.map_map]
    rfl

/-- A reply in XML lists every field that is shown of a document. -/
lemma render_xml_shown :
    ReplyFormat.xml.render packCost attributes r =
      Reply.xml (summary r) (costText packCost)
        (r.documents.map fun ordinal => (shownFields attributes ordinal).map textField) := by
  apply (xml_eq_iff rfl _ _ _).mpr
  refine ⟨rfl, ?_⟩
  rw [List.map_map, List.map_map]
  refine List.map_congr_left fun ordinal _ => ?_
  simp [shownFields, Function.comp_def, textField, shownField, FieldValue.toText]

end Reply

/-- The reply in XML lists the fields that are shown of each document, and the reply in JSON is read as an item for
each of them, in which every name has the last of its texts. The two show the same fields of a document, and as many,
exactly when no name stands twice among them. -/
theorem json_and_xml_replies_show_alike_iff (packCost : Nat) (attributes : AttributeStore) (r : Response) :
    ReplyFormat.xml.render packCost attributes r =
        Reply.xml (summary r) (costText packCost)
          (r.documents.map fun ordinal => (shownFields attributes ordinal).map textField) ∧
      ∃ items, ShowsItems (ReplyFormat.json.render packCost attributes r) items ∧
        List.Forall₂ (fun ordinal item =>
          (∀ name text, (∃ value, (name, value) ∈ item ∧ JsonLines.rawText value = text) ↔
            (itemsFor name (shownFields attributes ordinal)).getLast? = some text) ∧
          (ShowsAlike item (shownFields attributes ordinal) ↔
            ((shownFields attributes ordinal).map Prod.fst).Nodup)) r.documents items := by
  have hitems := (showsItems_render_json_iff packCost attributes r _).mpr rfl
  refine ⟨render_xml_shown packCost attributes r, _, hitems, ?_⟩
  rw [List.forall₂_map_right_iff, List.forall₂_same]
  intro ordinal _
  exact ⟨fun name text => exists_mem_jsonItem_iff, showsAlike_jsonItem_iff⟩

/-- A document with a name for a number and for a text. -/
def twoYearsStore : AttributeStore where
  names kind := if kind = .unsigned ∨ kind = .string then ["year"] else []
  unsigned := #[[1999]]
  string := #[["old"]]

/-- A field that the reply in XML lists is missing in the one in JSON. -/
theorem json_reply_without_the_first_of_two_years :
    ¬ ∃ items, ShowsItems (ReplyFormat.json.render 0 twoYearsStore { documents := [0] }) items ∧
      List.Forall₂ (fun ordinal item => ShowsAlike item (shownFields twoYearsStore ordinal)) [0] items := by
  rintro ⟨items, hitems, halike⟩
  obtain rfl := (showsItems_render_json_iff _ _ _ _).mp hitems
  rw [List.forall₂_map_right_iff, List.forall₂_same] at halike
  have hnodup := showsAlike_jsonItem_iff.mp (halike 0 List.mem_cons_self)
  exact absurd hnodup (by decide)

end TextSearch.Proofs
