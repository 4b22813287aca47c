import Mathlib.Data.List.Nodup
import TextSearch.Proofs.BasicReplies
import TextSearch.Proofs.XmlGrammar

/-!
# Replies as XML documents

In every reply in XML the tags balance and a mark is only ever written as an entity. Escapes do not keep out
characters that XML does not have, and letters and digits of Unicode are taken for parts of names that are none
in XML. A reply without them is a document, and only such a reply is.
-/

namespace TextSearch.Proofs
open Reply

/-! ### Parts of a reply -/

/-- The names of the elements and attributes that replies are built of. -/
def markupNames : List String :=
  ["display", "query", "doc_num", "total_found", "parse_cost", "segment_cost", "search_cost", "pack_cost", "docs",
   "item", "attr", "name"]

/-- What rules have to allow for there to be replies at all. -/
structure AllowsMarkup (rules : XmlRules) : Prop where
  legal : ∀ c : Char, c = '\n' ∨ (0x20 ≤ c.toNat ∧ c.toNat < 0x7F) → rules.legal c
  name : ∀ name ∈ markupNames, rules.isName name.toList

/-- Whether rules allow what is shown of a field, and its name as the name of an element if it is used as one. -/
structure AllowsField (rules : XmlRules) (shown : String × String) : Prop where
  name : ∀ c ∈ shown.1.toList, rules.legal c
  text : ∀ c ∈ shown.2.toList, rules.legal c
  element : isElementName shown.1 = true → rules.isName shown.1.toList

section Contents

variable {rules : XmlRules} {marks : List Char}

lemma escapeXmlChar_eq_entity {c : Char} (hc : c ∈ xmlMarks) :
    ∃ name ∈ entityNames, escapeXmlChar c = '&' :: name ++ [';'] := by
  simp only [xmlMarks, List.mem_cons, List.not_mem_nil, or_false] at hc
  rcases hc with rfl | rfl | rfl | rfl | rfl
  · exact ⟨['a', 'm', 'p'], by decide, rfl⟩
  · exact ⟨['l', 't'], by decide, rfl⟩
  · exact ⟨['g', 't'], by decide, rfl⟩
  · exact ⟨['q', 'u', 'o', 't'], by decide, rfl⟩
  · exact ⟨['a', 'p', 'o', 's'], by decide, rfl⟩

lemma mem_xmlMarks_of_textMarks : ∀ c ∈ textMarks, c ∈ xmlMarks := by simp [textMarks, xmlMarks]

lemma mem_xmlMarks_of_valueMarks : ∀ c ∈ valueMarks, c ∈ xmlMarks := by simp [valueMarks, xmlMarks]

lemma isText_escapeXmlChar (hmarks : ∀ c ∈ marks, c ∈ xmlMarks) {c : Char} (hc : rules.legal c) :
    IsText rules marks (escapeXmlChar c) := by
  by_cases hmark : c ∈ xmlMarks
  · obtain ⟨name, hname, hentity⟩ := escapeXmlChar_eq_entity hmark
    rw [hentity]
    exact .entity hname .nil
  · rw [escapeXmlChar_of_plain hmark]
    exact .char hc (fun h => hmark (hmarks c h)) .nil

lemma isText_escapeXml (hmarks : ∀ c ∈ marks, c ∈ xmlMarks) {s : String} (hs : ∀ c ∈ s.toList, rules.legal c) :
    IsText rules marks (escapeXml s).toList := by
  rw [toList_escapeXml]
  generalize s.toList = cs at hs
  induction cs with
  | nil => exact .nil
  | cons c rest ih =>
    obtain ⟨hc, hrest⟩ := List.forall_mem_cons.mp hs
    rw [List.flatMap_cons]
    exact (isText_escapeXmlChar hmarks hc).append (ih hrest)

lemma isContent_escapeXml {s : String} (hs : ∀ c ∈ s.toList, rules.legal c) :
    IsContent rules (escapeXml s).toList :=
  .text (isText_escapeXml mem_xmlMarks_of_textMarks hs)

lemma isAttributeList_nil : IsAttributeList rules [] where
  name := by simp
  value := by simp
  unique := List.nodup_nil

lemma isAttributeList_singleton {name value : List Char} (hname : rules.isName name)
    (hvalue : IsText rules valueMarks value) : IsAttributeList rules [(name, value)] where
  name := List.forall_mem_singleton.mpr hname
  value := List.forall_mem_singleton.mpr hvalue
  unique := List.nodup_singleton _

lemma toList_element (name text : String) :
    (element name text).toList = elementText name.toList [] (escapeXml text).toList := by
  simp [element, elementText]

lemma isContent_of_element {name text : String} (hname : rules.isName name.toList)
    (htext : ∀ c ∈ text.toList, rules.legal c) : IsContent rules (element name text).toList := by
  rw [toList_element]
  exact isContent_element hname isAttributeList_nil (isContent_escapeXml htext)

lemma attrElement_eq (f : String × FieldValue) :
    attrElement f = elementText "attr".toList [("name".toList, (escapeXml f.1).toList)]
      (escapeXml f.2.toText).toList := by
  unfold attrElement attrName attrText elementText attributeText
  simp only [String.reduceToList, List.flatMap_cons, List.flatMap_nil, List.cons_append, List.nil_append,
    List.append_assoc]

lemma isContent_fieldElement (hmarkup : AllowsMarkup rules) {f : String × FieldValue}
    (hfield : AllowsField rules (shownField f)) : IsContent rules (fieldElement f).toList := by
  rw [toList_fieldElement]
  split_ifs with hname
  · exact isContent_of_element (hfield.element hname) hfield.text
  · have hattributes := isAttributeList_singleton (hmarkup.name "name" (by simp [markupNames]))
      (isText_escapeXml mem_xmlMarks_of_valueMarks hfield.name)
    have helement := isContent_element (hmarkup.name "attr" (by simp [markupNames])) hattributes
      (isContent_escapeXml hfield.text)
    rw [attrElement_eq]
    exact helement

lemma isContent_blanks (hmarkup : AllowsMarkup rules) {blanks : List Char}
    (h : ∀ c ∈ blanks, c = ' ' ∨ c = '\n') : IsContent rules blanks := by
  refine .text (isText_of_forall (fun c hc => hmarkup.legal c ?_) fun c hc => ?_)
  · rcases h c hc with rfl | rfl <;> decide
  · rcases h c hc with rfl | rfl <;> decide

lemma isContent_feed (hmarkup : AllowsMarkup rules) : IsContent rules ['\n'] :=
  isContent_blanks hmarkup (List.forall_mem_singleton.mpr (.inr rfl))

lemma isContent_linesText (hmarkup : AllowsMarkup rules) {lines : List String}
    (h : ∀ line ∈ lines, IsContent rules line.toList) : IsContent rules (linesText lines) :=
  isContent_flatMap fun line hline => (h line hline).append (isContent_feed hmarkup)

/-- Lines between the tags of an element are what it holds. -/
lemma linesText_nested (indent name : String) {first last : String} (lines : List String)
    (hfirst : first = indent ++ "<" ++ name ++ ">") (hlast : last = indent ++ "</" ++ name ++ ">") :
    linesText (first :: lines ++ [last]) =
      indent.toList ++ elementText name.toList [] ('\n' :: linesText lines ++ indent.toList) ++ ['\n'] := by
  simp [hfirst, hlast, linesText, elementText]

lemma isContent_between (hmarkup : AllowsMarkup rules) (indent : String) {lines : List String}
    (hindent : ∀ c ∈ indent.toList, c = ' ' ∨ c = '\n') (hlines : IsContent rules (linesText lines)) :
    IsContent rules ('\n' :: linesText lines ++ indent.toList) :=
  ((isContent_feed hmarkup).append hlines).append (isContent_blanks hmarkup hindent)

lemma isContent_nested (hmarkup : AllowsMarkup rules) (indent name : String) {first last : String}
    {lines : List String} (hfirst : first = indent ++ "<" ++ name ++ ">") (hlast : last = indent ++ "</" ++ name ++ ">")
    (hindent : ∀ c ∈ indent.toList, c = ' ' ∨ c = '\n') (hname : name ∈ markupNames)
    (hlines : IsContent rules (linesText lines)) : IsContent rules (linesText (first :: lines ++ [last])) := by
  have helement := isContent_element (hmarkup.name name hname) isAttributeList_nil
    (isContent_between hmarkup indent hindent hlines)
  rw [linesText_nested indent name lines hfirst hlast]
  exact ((isContent_blanks hmarkup hindent).append helement).append (isContent_feed hmarkup)

end Contents

/-! ### Replies that are documents -/

lemma escapeXml_of_plain {s : String} (h : ∀ c ∈ s.toList, c ∉ xmlMarks) : escapeXml s = s := by
  have hchars : s.toList.flatMap escapeXmlChar = s.toList.flatMap fun c => [c] :=
    List.flatMap_congr fun c hc => escapeXmlChar_of_plain (h c hc)
  rw [escapeXml, hchars, List.flatMap_singleton', String.ofList_toList]

/-- Digits and letters, of which counts and costs are made. -/
def IsPlainSign (c : Char) : Prop := (0x20 ≤ c.toNat ∧ c.toNat < 0x7F) ∧ c ∉ xmlMarks

lemma isPlainSign_of_isDigit {c : Char} (h : Decimal.isDigit c = true) : IsPlainSign c := by
  simp only [Decimal.isDigit, Bool.and_eq_true, decide_eq_true_eq, Char.le_def, UInt32.le_iff_toNat_le] at h
  obtain ⟨hlow, hhigh⟩ := h
  have hnumber : 0x30 ≤ c.toNat ∧ c.toNat ≤ 0x39 := ⟨hlow, hhigh⟩
  refine ⟨by omega, fun hmark => ?_⟩
  simp only [xmlMarks, List.mem_cons, List.not_mem_nil, or_false] at hmark
  rcases hmark with rfl | rfl | rfl | rfl | rfl <;> exact absurd hnumber (by decide)

lemma isPlainSign_toString {n : Nat} {c : Char} (h : c ∈ (toString n).toList) : IsPlainSign c :=
  isPlainSign_of_isDigit (isDigit_of_mem_toString h)

lemma isPlainSign_costText {n : Nat} {c : Char} (h : c ∈ (costText n).toList) : IsPlainSign c := by
  rw [costText, String.toList_append, List.mem_append] at h
  rcases h with h | h
  · exact isPlainSign_toString h
  · have hunit : c = 'u' ∨ c = 's' := by simpa using h
    rcases hunit with rfl | rfl <;> exact ⟨by decide, by decide⟩

/-- What stands between the tags of a reply. -/
def replyLines (packCost : Nat) (attributes : AttributeStore) (r : Response) : List String :=
  (replyHeads packCost r).map (fun head => "  " ++ element head.1 head.2) ++
    (("  <docs>" :: (r.documents.map (project attributes)).flatMap itemLines) ++ ["  </docs>"])

lemma element_packCost (packCost : Nat) :
    element "pack_cost" (costText packCost) = "<pack_cost>" ++ costText packCost ++ "</pack_cost>" := by
  rw [element, escapeXml_of_plain fun c hc => (isPlainSign_costText hc).2]
  simp [← String.toList_inj]

lemma xmlLines_eq (packCost : Nat) (attributes : AttributeStore) (r : Response) :
    xmlLines (summary r) (costText packCost) (r.documents.map (project attributes)) =
      "<?xml version=\"1.0\" encoding=\"utf-8\"?>" ::
        ("<display>" :: replyLines packCost attributes r ++ ["</display>"]) := by
  simp [xmlLines, replyLines, replyHeads, element_packCost, ← String.append_assoc]

lemma toList_render_xml_eq_linesText (packCost : Nat) (attributes : AttributeStore) (r : Response) :
    (ReplyFormat.xml.render packCost attributes r).toList =
      linesText (xmlLines (summary r) (costText packCost) (r.documents.map (project attributes))) :=
  toList_join_lines _

lemma toList_render_xml (packCost : Nat) (attributes : AttributeStore) (r : Response) :
    (ReplyFormat.xml.render packCost attributes r).toList =
      xmlDeclaration ++ ['\n'] ++
        elementText "display".toList [] ('\n' :: linesText (replyLines packCost attributes r) ++ []) ++ ['\n'] := by
  have hnested : linesText ("<display>" :: replyLines packCost attributes r ++ ["</display>"]) = _ :=
    linesText_nested "" "display" (replyLines packCost attributes r) (by simp) (by simp)
  rw [String.toList_empty, List.nil_append] at hnested
  rw [toList_render_xml_eq_linesText, xmlLines_eq, linesText_cons, hnested, List.append_assoc _ _ ['\n']]
  rfl

/-- Whether rules allow the query and what is shown of the documents. -/
structure AllowsReply (rules : XmlRules) (attributes : AttributeStore) (r : Response) : Prop where
  query : ∀ c ∈ r.query.toList, rules.legal c
  fields : ∀ ordinal ∈ r.documents, ∀ shown ∈ shownFields attributes ordinal, AllowsField rules shown

section Replies

variable {rules : XmlRules} {attributes : AttributeStore} {r : Response}

lemma AllowsMarkup.plainSign (h : AllowsMarkup rules) {cs : List Char} (hcs : ∀ c ∈ cs, IsPlainSign c) :
    ∀ c ∈ cs, rules.legal c :=
  fun c hc => h.legal c (.inr (hcs c hc).1)

lemma isContent_heads (hmarkup : AllowsMarkup rules) (hreply : AllowsReply rules attributes r) (packCost : Nat) :
    ∀ head ∈ replyHeads packCost r, IsContent rules (element head.1 head.2).toList := by
  have hnumber : ∀ n : Nat, ∀ c ∈ (toString n).toList, rules.legal c :=
    fun n => hmarkup.plainSign fun _ => isPlainSign_toString
  have hcost : ∀ n : Nat, ∀ c ∈ (costText n).toList, rules.legal c :=
    fun n => hmarkup.plainSign fun _ => isPlainSign_costText
  simp only [replyHeads, summary, List.cons_append, List.nil_append, List.forall_mem_cons]
  refine ⟨?_, ?_, ?_, ?_, ?_, ?_, ?_, List.forall_mem_nil _⟩
  · exact isContent_of_element (hmarkup.name "query" (by simp [markupNames])) hreply.query
  · exact isContent_of_element (hmarkup.name "doc_num" (by simp [markupNames])) (hnumber _)
  · exact isContent_of_element (hmarkup.name "total_found" (by simp [markupNames])) (hnumber _)
  · exact isContent_of_element (hmarkup.name "parse_cost" (by simp [markupNames])) (hcost _)
  · exact isContent_of_element (hmarkup.name "segment_cost" (by simp [markupNames])) (hcost _)
  · exact isContent_of_element (hmarkup.name "search_cost" (by simp [markupNames])) (hcost _)
  · exact isContent_of_element (hmarkup.name "pack_cost" (by simp [markupNames])) (hcost _)

lemma isContent_indented (hmarkup : AllowsMarkup rules) {indent : String} {text : String}
    (hindent : ∀ c ∈ indent.toList, c = ' ' ∨ c = '\n') (htext : IsContent rules text.toList) :
    IsContent rules (indent ++ text).toList := by
  rw [String.toList_append]
  exact (isContent_blanks hmarkup hindent).append htext

lemma isContent_itemLines (hmarkup : AllowsMarkup rules) {fields : Fields}
    (h : ∀ f ∈ fields, AllowsField rules (shownField f)) : IsContent rules (linesText (itemLines fields)) := by
  have hlines : IsContent rules (linesText (fields.map fun f => "      " ++ fieldElement f)) := by
    refine isContent_linesText hmarkup (List.forall_mem_map.mpr fun f hf => ?_)
    exact isContent_indented hmarkup (by simp) (isContent_fieldElement hmarkup (h f hf))
  exact isContent_nested hmarkup "    " "item" (by simp) (by simp) (by simp)
    (by simp [markupNames]) hlines

lemma isContent_replyLines (hmarkup : AllowsMarkup rules) (hreply : AllowsReply rules attributes r)
    (packCost : Nat) : IsContent rules (linesText (replyLines packCost attributes r)) := by
  have hheads : IsContent rules
      (linesText ((replyHeads packCost r).map fun head => "  " ++ element head.1 head.2)) := by
    refine isContent_linesText hmarkup (List.forall_mem_map.mpr fun head hhead => ?_)
    exact isContent_indented hmarkup (by simp) (isContent_heads hmarkup hreply packCost head hhead)
  have hitems : IsContent rules (linesText ((r.documents.map (project attributes)).flatMap itemLines)) := by
    rw [linesText_flatMap]
    refine isContent_flatMap (List.forall_mem_map.mpr fun ordinal hordinal => ?_)
    exact isContent_itemLines hmarkup (List.forall_mem_map.mp (hreply.fields ordinal hordinal))
  rw [replyLines, linesText_append]
  refine hheads.append ?_
  exact isContent_nested hmarkup "  " "docs" (by simp) (by simp) (by simp)
    (by simp [markupNames]) hitems

lemma isDocument_render (hmarkup : AllowsMarkup rules) (hreply : AllowsReply rules attributes r)
    (packCost : Nat) : IsDocument rules (ReplyFormat.xml.render packCost attributes r).toList := by
  have hinner := isContent_between hmarkup "" (by simp)
    (isContent_replyLines hmarkup hreply packCost)
  have hname := hmarkup.name "display" (by simp [markupNames])
  exact ⟨['\n'], _, [], _, ['\n'], rfl, rfl, hname, isAttributeList_nil, hinner,
    toList_render_xml packCost attributes r⟩

lemma infix_linesText {line : String} {lines : List String} (h : line ∈ lines) :
    line.toList <:+: linesText lines := by
  have hline : line.toList ++ ['\n'] <:+: linesText lines :=
    List.infix_of_mem_flatten (List.mem_map_of_mem h)
  exact (List.prefix_append _ _).isInfix.trans hline

lemma infix_render_query (packCost : Nat) (attributes : AttributeStore) (r : Response) :
    (escapeXml r.query).toList <:+: (ReplyFormat.xml.render packCost attributes r).toList := by
  have hline : "  " ++ element "query" r.query ∈
      xmlLines (summary r) (costText packCost) (r.documents.map (project attributes)) := by
    simp [xmlLines, summary]
  have hquery : (escapeXml r.query).toList <:+: ("  " ++ element "query" r.query).toList :=
    ⟨"  <query>".toList, "</query>".toList, by simp [element]⟩
  rw [toList_render_xml_eq_linesText]
  exact hquery.trans (infix_linesText hline)

lemma infix_render_field (packCost : Nat) {ordinal : Ordinal} (hordinal : ordinal ∈ r.documents)
    {f : String × FieldValue} (hf : f ∈ project attributes ordinal) :
    (fieldElement f).toList <:+: (ReplyFormat.xml.render packCost attributes r).toList := by
  have hline : "      " ++ fieldElement f ∈
      xmlLines (summary r) (costText packCost) (r.documents.map (project attributes)) := by
    simp only [xmlLines, List.mem_append, List.mem_flatMap, List.mem_map, itemLines]
    exact .inl (.inr ⟨_, ⟨ordinal, hordinal, rfl⟩, .inl (.inr ⟨f, hf, rfl⟩)⟩)
  have hfield : (fieldElement f).toList <:+: ("      " ++ fieldElement f).toList :=
    ⟨"      ".toList, [], by simp⟩
  rw [toList_render_xml_eq_linesText]
  exact hfield.trans (infix_linesText hline)

end Replies

/-! ### Documents that are replies -/

lemma Tidy.isXmlChar_of_infix {xs text : List Char} (h : Tidy text) (hinside : xs <:+: text) :
    ∀ c ∈ xs, isXmlChar c = true :=
  fun c hc => h.legal c (hinside.subset hc)

lemma isXmlChar_of_escapeXml {s : String} (h : ∀ c ∈ (escapeXml s).toList, isXmlChar c = true) :
    ∀ c ∈ s.toList, isXmlChar c = true := by
  intro c hc
  by_cases hmark : c ∈ xmlMarks
  · have hmarks : ∀ c ∈ xmlMarks, isXmlChar c = true := by simp [xmlMarks]; decide
    exact hmarks c hmark
  · apply h
    rw [toList_escapeXml, List.mem_flatMap]
    exact ⟨c, hc, by simp [escapeXmlChar_of_plain hmark]⟩

lemma notMem_elementName {name : String} (h : isElementName name = true) {c : Char} (hc : ¬ isNameChar c = true) :
    c ∉ name.toList :=
  fun hmem => hc (isNameChar_of_mem h c hmem)

lemma head?_elementName_append {name : String} (h : isElementName name = true) (rest : List Char) :
    ∃ c ∈ name.toList, (name.toList ++ rest).head? = some c := by
  cases hname : name.toList with
  | nil =>
    rw [isElementName, hname] at h
    cases h
  | cons c cs => exact ⟨c, List.mem_cons_self, rfl⟩

lemma not_isNameChar_slash : ¬ isNameChar '/' = true := by decide +kernel

lemma not_isNameChar_question : ¬ isNameChar '?' = true := by decide +kernel

lemma notMem_xmlName {name : List Char} (h : isXmlName name = true) {c : Char}
    (hc : ¬ nameCharRanges.covers c = true) : c ∉ name :=
  fun hmem => hc (nameChar_of_mem h hmem)

/-- A name that stands in a tag as it is must be a name by the rules of XML. -/
lemma OpensTag.isXmlName {name : String} {rest : List Char} (hname : isElementName name = true)
    (h : OpensTag (name.toList ++ '>' :: rest)) : isXmlName name.toList = true := by
  obtain ⟨c, hc, hhead⟩ := head?_elementName_append hname ('>' :: rest)
  rcases h with h | h | ⟨allowed, more, hallowed, hequal, hmore⟩
  · obtain rfl := Option.some.inj (hhead.symm.trans h)
    exact absurd hc (notMem_elementName hname not_isNameChar_slash)
  · obtain rfl := Option.some.inj (hhead.symm.trans h)
    exact absurd hc (notMem_elementName hname not_isNameChar_question)
  · -- neither name holds a blank or the mark that closes a tag, and both end at one of these
    have hinside : ∀ d ∈ name.toList, d ≠ ' ' ∧ d ≠ '>' := by
      intro d hd
      exact ⟨fun h => notMem_elementName hname not_isNameChar_blank (h ▸ hd),
        fun h => notMem_elementName hname not_isNameChar_mark (h ▸ hd)⟩
    have hallowedInside : ∀ d ∈ allowed, d ≠ ' ' ∧ d ≠ '>' := by
      intro d hd
      exact ⟨fun h => notMem_xmlName hallowed (by decide) (h ▸ hd),
        fun h => notMem_xmlName hallowed (by decide) (h ▸ hd)⟩
    cases more with
    | nil => simp at hmore
    | cons d more =>
      have hend : ¬ (d ≠ ' ' ∧ d ≠ '>') := by
        rcases hmore with hd | hd <;> simp [Option.some.inj hd]
      obtain ⟨hsame, -, -⟩ := append_cons_inj hinside hallowedInside (by simp) hend hequal
      rwa [hsame]

lemma allowsField_of_tidy {text : List Char} (htidy : Tidy text) {f : String × FieldValue}
    (hinside : (fieldElement f).toList <:+: text) : AllowsField xmlRules (shownField f) := by
  rw [toList_fieldElement] at hinside
  -- only a name that is used as it is stands behind a mark that opens a tag
  split_ifs at hinside with hname
  · have hvalue : (escapeXml f.2.toText).toList <:+: (element f.1 f.2.toText).toList :=
      ⟨("<" ++ f.1 ++ ">").toList, ("</" ++ f.1 ++ ">").toList, by simp [element]⟩
    have hnamed : f.1.toList <:+: (element f.1 f.2.toText).toList :=
      ⟨['<'], (">" ++ escapeXml f.2.toText ++ "</" ++ f.1 ++ ">").toList, by simp [element]⟩
    refine ⟨htidy.isXmlChar_of_infix (hnamed.trans hinside),
      isXmlChar_of_escapeXml (htidy.isXmlChar_of_infix (hvalue.trans hinside)), fun _ => ?_⟩
    obtain ⟨before, after, rfl⟩ := hinside
    have hopens := htidy.tags before
      (f.1.toList ++ '>' :: ((escapeXml f.2.toText ++ "</" ++ f.1 ++ ">").toList ++ after)) (by simp [element])
    exact hopens.isXmlName hname
  · have hvalue : (escapeXml f.2.toText).toList <:+: attrText f := by
      unfold attrText
      exact (List.prefix_append _ _).isInfix.trans (List.prefix_append _ _).isInfix
    have hnamed : (escapeXml f.1).toList <:+: attrName f := by
      unfold attrName
      exact ((List.prefix_append _ _).isInfix.trans (List.suffix_append _ _).isInfix).trans
        (List.prefix_append _ _).isInfix
    have hattrText : attrText f <:+: attrElement f := (List.suffix_append _ _).isInfix
    have hattrName : attrName f <:+: attrElement f := (List.prefix_append _ _).isInfix
    exact ⟨isXmlChar_of_escapeXml (htidy.isXmlChar_of_infix ((hnamed.trans hattrName).trans hinside)),
      isXmlChar_of_escapeXml (htidy.isXmlChar_of_infix ((hvalue.trans hattrText).trans hinside)),
      fun h => absurd h hname⟩

lemma allowsReply_of_isDocument {packCost : Nat} {attributes : AttributeStore} {r : Response}
    (h : IsDocument xmlRules (ReplyFormat.xml.render packCost attributes r).toList) :
    AllowsReply xmlRules attributes r where
  query := isXmlChar_of_escapeXml (h.tidy.isXmlChar_of_infix (infix_render_query packCost attributes r))
  fields _ hordinal :=
    List.forall_mem_map.mpr fun _ hf => allowsField_of_tidy h.tidy (infix_render_field packCost hordinal hf)

/-! ### Well-formed replies -/

/-- Rules under which all characters are allowed, and all names that replies use as they are. -/
def looseRules : XmlRules := ⟨fun _ => True, fun name => isElementName (String.ofList name) = true⟩

lemma allowsMarkup_looseRules : AllowsMarkup looseRules where
  legal _ _ := trivial
  name := by
    unfold looseRules
    simp only [String.ofList_toList]
    decide +kernel

lemma allowsMarkup_xmlRules : AllowsMarkup xmlRules where
  legal c hc := by
    rcases hc with rfl | ⟨hlow, hhigh⟩
    · exact covers_of_mem (r := (0x9, 0xA)) (by decide) (by decide) (by decide) (by decide)
    · exact covers_of_mem (r := (0x20, 0xD7FF)) (by decide) (by decide) hlow (by simp only; omega)
  name := by
    unfold xmlRules
    decide +kernel

lemma allowsReply_looseRules (attributes : AttributeStore) (r : Response) :
    AllowsReply looseRules attributes r where
  query _ _ := trivial
  fields _ _ shown _ := by
    refine ⟨fun _ _ => trivial, fun _ _ => trivial, fun hname => ?_⟩
    change isElementName (String.ofList shown.1.toList) = true
    rwa [String.ofList_toList]

/-- In every reply in XML the tags balance and a mark is only written as an entity. A reply is a document of XML
1.0 exactly when the query and all that is shown of its documents hold characters of XML only and every name
that is used as it is is a name of XML. -/
theorem xml_reply_is_document_iff (packCost : Nat) (attributes : AttributeStore) (r : Response) :
    IsDocument looseRules (ReplyFormat.xml.render packCost attributes r).toList ∧
      (IsDocument xmlRules (ReplyFormat.xml.render packCost attributes r).toList ↔
        (∀ c ∈ r.query.toList, isXmlChar c = true) ∧
          ∀ ordinal ∈ r.documents, ∀ shown ∈ shownFields attributes ordinal,
            (∀ c ∈ shown.1.toList, isXmlChar c = true) ∧ (∀ c ∈ shown.2.toList, isXmlChar c = true) ∧
              (isElementName shown.1 = true → isXmlName shown.1.toList = true)) := by
  constructor
  · exact isDocument_render allowsMarkup_looseRules (allowsReply_looseRules attributes r) packCost
  constructor
  · intro h
    have hreply := allowsReply_of_isDocument h
    refine ⟨hreply.query, fun ordinal hordinal shown hshown => ?_⟩
    have hfield := hreply.fields ordinal hordinal shown hshown
    exact ⟨hfield.name, hfield.text, hfield.element⟩
  · rintro ⟨hquery, hfields⟩
    have hreply : AllowsReply xmlRules attributes r := by
      refine ⟨hquery, fun ordinal hordinal shown hshown => ?_⟩
      obtain ⟨hname, htext, helement⟩ := hfields ordinal hordinal shown hshown
      exact ⟨hname, htext, helement⟩
    exact isDocument_render allowsMarkup_xmlRules hreply packCost

/-- A letter that no name in XML has, as the name of an attribute. -/
def microStore : AttributeStore where
  names := fun kind => if kind = .string then ["µ"] else []
  string := #[["x"]]

/-- Neither a control character in the query nor a letter that is none in XML is kept out of a reply. -/
theorem xml_replies_that_are_no_documents :
    ¬ IsDocument xmlRules (ReplyFormat.xml.render 0 {} { query := "\x01" }).toList ∧
      ¬ IsDocument xmlRules (ReplyFormat.xml.render 0 microStore { documents := [0] }).toList := by
  constructor
  · intro h
    have hquery : isXmlChar '\x01' = true := (allowsReply_of_isDocument h).query '\x01' (by decide)
    exact absurd hquery (by decide)
  · intro h
    have hfield := (allowsReply_of_isDocument h).fields 0 (by decide) ("µ", "x") (by decide)
    have hname : isXmlName ['µ'] = true := hfield.element (by decide +kernel)
    exact absurd hname (by decide)

end TextSearch.Proofs
