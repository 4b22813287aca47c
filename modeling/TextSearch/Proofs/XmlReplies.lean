import Mathlib.Tactic.Lemma
import Mathlib.Tactic.SplitIfs
import TextSearch.Reply.Format

/-!
# Replies in XML

No escaped text holds the mark that ends it, and no name of an element holds the one behind it. So a reply in
XML can be taken apart from its front, and two replies are the same text only if they show the same.
-/

namespace TextSearch.Proofs
open Reply

/-! ### Texts that can be taken apart -/

/-- Whether a text that starts with what is written for a value tells what the value shows and where what is
written for it ends. -/
def Separates {α β : Type} (write : α → List Char) (shows : α → β) : Prop :=
  ∀ ⦃a b : α⦄ ⦃rest more : List Char⦄, write a ++ rest = write b ++ more → shows a = shows b ∧ rest = more

namespace Separates

variable {α β γ : Type} {write : α → List Char} {shows : α → β}

lemma comap (h : Separates write shows) (f : γ → α) : Separates (fun c => write (f c)) (fun c => shows (f c)) :=
  fun _ _ _ _ hcd => h hcd

lemma append {write' : α → List Char} {shows' : α → γ} (h : Separates write shows) (h' : Separates write' shows') :
    Separates (fun a => write a ++ write' a) (fun a => (shows a, shows' a)) := by
  intro a b rest more hab
  simp only [List.append_assoc] at hab
  obtain ⟨hshows, htail⟩ := h hab
  obtain ⟨hshows', hrest⟩ := h' htail
  exact ⟨Prod.ext hshows hshows', hrest⟩

lemma opened (h : Separates write shows) (before : List Char) : Separates (fun a => before ++ write a) shows := by
  intro a b rest more hab
  rw [List.append_assoc, List.append_assoc] at hab
  exact h (List.append_cancel_left hab)

lemma closed (h : Separates write shows) (after : List Char) : Separates (fun a => write a ++ after) shows := by
  intro a b rest more hab
  rw [List.append_assoc, List.append_assoc] at hab
  obtain ⟨hshows, hrest⟩ := h hab
  exact ⟨hshows, List.append_cancel_left hrest⟩

lemma flatMap (h : Separates write shows) {close : List Char}
    (hclose : ∀ a rest more, write a ++ rest ≠ close ++ more) :
    Separates (fun as : List α => as.flatMap write ++ close) (List.map shows) := by
  intro as
  -- by induction on one list; as no value starts with what closes a list, both go on or both end
  induction as with
  | nil =>
    rintro (_ | ⟨b, bs⟩) rest more heq
    · exact ⟨rfl, List.append_cancel_left heq⟩
    · simp only [List.flatMap_nil, List.nil_append, List.flatMap_cons, List.append_assoc] at heq
      exact absurd heq.symm (hclose b _ _)
  | cons a as ih =>
    rintro (_ | ⟨b, bs⟩) rest more heq
    · simp only [List.flatMap_nil, List.nil_append, List.flatMap_cons, List.append_assoc] at heq
      exact absurd heq (hclose a _ _)
    · simp only [List.flatMap_cons, List.append_assoc] at heq
      obtain ⟨hhead, htail⟩ := h heq
      rw [← List.append_assoc, ← List.append_assoc] at htail
      obtain ⟨hshows, hrest⟩ := ih htail
      exact ⟨by rw [List.map_cons, List.map_cons, hhead, hshows], hrest⟩

end Separates

lemma append_cons_inj {p : Char → Prop} {xs ys rest more : List Char} {c d : Char} (hxs : ∀ x ∈ xs, p x)
    (hys : ∀ y ∈ ys, p y) (hc : ¬ p c) (hd : ¬ p d) (h : xs ++ c :: rest = ys ++ d :: more) :
    xs = ys ∧ c = d ∧ rest = more := by
  induction xs generalizing ys with
  | nil =>
    cases ys with
    | nil => exact ⟨rfl, List.cons.inj h⟩
    | cons y ys => exact absurd ((List.cons.inj h).1 ▸ hys y List.mem_cons_self) hc
  | cons x xs ih =>
    cases ys with
    | nil => exact absurd ((List.cons.inj h).1 ▸ hxs x List.mem_cons_self) hd
    | cons y ys =>
      obtain ⟨rfl, htail⟩ := List.cons.inj h
      obtain ⟨rfl, hrest⟩ := ih (fun z hz => hxs z (List.mem_cons_of_mem _ hz))
        (fun z hz => hys z (List.mem_cons_of_mem _ hz)) htail
      exact ⟨rfl, hrest⟩

/-! ### Escaped texts -/

/-- The characters for which an entity stands. -/
def xmlMarks : List Char := ['&', '<', '>', '"', '\'']

lemma escapeXmlChar_of_plain {c : Char} (hc : c ∉ xmlMarks) : escapeXmlChar c = [c] := by
  simp only [xmlMarks, List.mem_cons, List.not_mem_nil, or_false, not_or] at hc
  simp [escapeXmlChar, hc]

lemma head?_escapeXmlChar_of_mark {c : Char} (hc : c ∈ xmlMarks) : (escapeXmlChar c).head? = some '&' := by
  have hall : xmlMarks.all (fun c => (escapeXmlChar c).head? == some '&') = true := by decide
  exact beq_iff_eq.mp (List.all_eq_true.mp hall c hc)

lemma eq_of_prefix_escapeXmlChar {c d : Char} (hc : c ∈ xmlMarks) (hd : d ∈ xmlMarks)
    (h : escapeXmlChar c <+: escapeXmlChar d) : c = d := by
  have hall : xmlMarks.all (fun c => xmlMarks.all fun d =>
      !(escapeXmlChar c).isPrefixOf (escapeXmlChar d) || c == d) = true := by decide
  have hcd := List.all_eq_true.mp (List.all_eq_true.mp hall c hc) d hd
  rw [List.isPrefixOf_iff_prefix.mpr h] at hcd
  exact beq_iff_eq.mp hcd

lemma escapeXmlChar_of_mark {c : Char} (hc : c ∈ xmlMarks) : ∃ name, escapeXmlChar c = '&' :: name :=
  List.head?_eq_some_iff.mp (head?_escapeXmlChar_of_mark hc)

lemma escapeXmlChar_separates : Separates escapeXmlChar id := by
  intro c d rest more h
  -- no entity is the start of another, and a character that stands for itself is not the start of any
  by_cases hc : c ∈ xmlMarks <;> by_cases hd : d ∈ xmlMarks
  · have hcd : c = d := by
      rcases List.prefix_or_prefix_of_prefix ⟨rest, h⟩ (List.prefix_append _ more) with hpre | hpre
      · exact eq_of_prefix_escapeXmlChar hc hd hpre
      · exact (eq_of_prefix_escapeXmlChar hd hc hpre).symm
    subst hcd
    exact ⟨rfl, List.append_cancel_left h⟩
  · obtain ⟨name, hname⟩ := escapeXmlChar_of_mark hc
    rw [hname, escapeXmlChar_of_plain hd] at h
    exact absurd ((List.cons.inj h).1 ▸ List.mem_cons_self) hd
  · obtain ⟨name, hname⟩ := escapeXmlChar_of_mark hd
    rw [hname, escapeXmlChar_of_plain hc] at h
    exact absurd ((List.cons.inj h).1.symm ▸ List.mem_cons_self) hc
  · rw [escapeXmlChar_of_plain hc, escapeXmlChar_of_plain hd] at h
    exact List.cons.inj h

lemma escapeXmlChar_append_ne {e : Char} (he : e ∈ xmlMarks) (hamp : e ≠ '&') (c : Char) (rest more : List Char) :
    escapeXmlChar c ++ rest ≠ [e] ++ more := by
  intro h
  by_cases hc : c ∈ xmlMarks
  · obtain ⟨name, hname⟩ := escapeXmlChar_of_mark hc
    rw [hname] at h
    exact hamp (List.cons.inj h).1.symm
  · rw [escapeXmlChar_of_plain hc] at h
    exact hc ((List.cons.inj h).1 ▸ he)

lemma toList_escapeXml (s : String) : (escapeXml s).toList = s.toList.flatMap escapeXmlChar :=
  String.toList_ofList

lemma escapeXml_separates {e : Char} (he : e ∈ xmlMarks) (hamp : e ≠ '&') :
    Separates (fun s => (escapeXml s).toList ++ [e]) id := by
  intro s t rest more h
  simp only [toList_escapeXml] at h
  obtain ⟨hchars, hrest⟩ := escapeXmlChar_separates.flatMap (escapeXmlChar_append_ne he hamp) h
  rw [List.map_id, List.map_id] at hchars
  exact ⟨String.toList_inj.mp hchars, hrest⟩

/-! ### Elements -/

lemma element_separates (name : String) : Separates (fun text => (element name text).toList) id := by
  intro s t rest more h
  have htext := escapeXml_separates (e := '<') (by decide) (by decide)
  apply (htext.opened ('<' :: name.toList ++ ['>'])).closed ('/' :: name.toList ++ ['>'])
  simpa [element] using h

lemma isNameChar_of_mem {name : String} (h : isElementName name = true) :
    ∀ c ∈ name.toList, isNameChar c = true := by
  unfold isElementName at h
  split at h
  · cases h
  · rename_i c rest hname
    simp only [Bool.and_eq_true, Bool.or_eq_true, List.all_eq_true] at h
    obtain ⟨⟨hfirst, _⟩, hothers⟩ := h
    rw [hname, List.forall_mem_cons]
    refine ⟨?_, hothers⟩
    rcases hfirst with hfirst | hfirst <;> simp [isNameChar, Unicode.isAlphanumeric, hfirst]

lemma not_isNameChar_mark : ¬ isNameChar '>' = true := by decide +kernel

lemma not_isNameChar_blank : ¬ isNameChar ' ' = true := by decide +kernel

lemma isNameChar_attr : ∀ c ∈ ['a', 't', 't', 'r'], isNameChar c = true :=
  List.all_eq_true.mp (by decide +kernel)

/-- What a field shows: its name and the text of its value. -/
def shownField (field : String × FieldValue) : String × String := (field.1, field.2.toText)

def attrName (f : String × FieldValue) : List Char :=
  "<attr name=\"".toList ++ ((escapeXml f.1).toList ++ ['"']) ++ ['>']

def attrText (f : String × FieldValue) : List Char :=
  (escapeXml f.2.toText).toList ++ ['<'] ++ "/attr>".toList

/-- The element that carries the name of a field. -/
def attrElement (f : String × FieldValue) : List Char := attrName f ++ attrText f

lemma toList_fieldElement (f : String × FieldValue) :
    (fieldElement f).toList =
      if isElementName f.1 then (element f.1 f.2.toText).toList else attrElement f := by
  by_cases h : isElementName f.1 = true
  · rw [if_pos h, fieldElement, if_pos h]
  · rw [if_neg h, fieldElement, if_neg h]
    unfold attrElement attrName attrText
    simp only [String.toList_append, String.reduceToList, List.cons_append, List.nil_append, List.append_assoc]

lemma attrElement_separates : Separates attrElement shownField := by
  have hquoted := escapeXml_separates (e := '"') (by decide) (by decide)
  have hname : Separates attrName Prod.fst := ((hquoted.comap Prod.fst).opened _).closed _
  have hinner := escapeXml_separates (e := '<') (by decide) (by decide)
  have htext : Separates attrText fun f => f.2.toText :=
    (hinner.comap fun f : String × FieldValue => f.2.toText).closed _
  exact hname.append htext

lemma toList_element_append (name text : String) (rest : List Char) :
    (element name text).toList ++ rest =
      '<' :: (name.toList ++ '>' :: ((escapeXml text ++ "</" ++ name ++ ">").toList ++ rest)) := by
  simp [element]

lemma elementName_eq {f g : String × FieldValue} {rest more : List Char} (hf : isElementName f.1 = true)
    (hg : isElementName g.1 = true)
    (h : (element f.1 f.2.toText).toList ++ rest = (element g.1 g.2.toText).toList ++ more) : f.1 = g.1 := by
  rw [toList_element_append, toList_element_append] at h
  obtain ⟨hname, _⟩ := append_cons_inj (isNameChar_of_mem hf) (isNameChar_of_mem hg) not_isNameChar_mark
    not_isNameChar_mark (List.cons.inj h).2
  exact String.toList_inj.mp hname

lemma attrElement_append (f : String × FieldValue) (rest : List Char) :
    ∃ behind, attrElement f ++ rest = '<' :: (['a', 't', 't', 'r'] ++ ' ' :: behind) := by
  unfold attrElement attrName
  simp only [String.reduceToList, List.cons_append, List.nil_append, List.append_assoc]
  exact ⟨_, rfl⟩

lemma element_append_ne {f g : String × FieldValue} (hf : isElementName f.1 = true) (rest more : List Char) :
    (element f.1 f.2.toText).toList ++ rest ≠ attrElement g ++ more := by
  intro h
  obtain ⟨behind, hbehind⟩ := attrElement_append g more
  rw [toList_element_append, hbehind] at h
  -- The field may be called `attr` itself: its element still closes the name with a mark, the other with a blank.
  obtain ⟨_, hmark, _⟩ := append_cons_inj (isNameChar_of_mem hf) isNameChar_attr not_isNameChar_mark
    not_isNameChar_blank (List.cons.inj h).2
  exact absurd hmark (by decide)

lemma fieldElement_separates : Separates (fun f => (fieldElement f).toList) shownField := by
  intro f g rest more h
  simp only [toList_fieldElement] at h
  split_ifs at h with hf hg hg
  · have hname : f.1 = g.1 := elementName_eq hf hg h
    rw [← hname] at h
    obtain ⟨htext, hrest⟩ := element_separates f.1 h
    exact ⟨Prod.ext hname htext, hrest⟩
  · exact absurd h (element_append_ne hf _ _)
  · exact absurd h.symm (element_append_ne hg _ _)
  · exact attrElement_separates h

/-! ### Lines -/

def linesText (lines : List String) : List Char := lines.flatMap fun line => line.toList ++ ['\n']

lemma toList_join_lines (lines : List String) :
    (String.join (lines.map (· ++ "\n"))).toList = linesText lines := by
  rw [String.toList_join, List.flatMap_map, linesText]
  simp only [String.toList_append]
  rfl

lemma linesText_cons (line : String) (lines : List String) :
    linesText (line :: lines) = line.toList ++ ['\n'] ++ linesText lines :=
  List.flatMap_cons

lemma linesText_append (xs ys : List String) : linesText (xs ++ ys) = linesText xs ++ linesText ys :=
  List.flatMap_append

lemma linesText_flatMap {α : Type} (xs : List α) (f : α → List String) :
    linesText (xs.flatMap f) = xs.flatMap fun x => linesText (f x) :=
  List.flatMap_assoc

lemma fieldLine_separates :
    Separates (fun f => ("      " ++ fieldElement f).toList ++ ['\n']) shownField := by
  simp only [String.toList_append]
  exact (fieldElement_separates.opened _).closed _

lemma itemLines_separates : Separates (fun fields => linesText (itemLines fields)) (List.map shownField) := by
  have hclose : ∀ f rest more, ("      " ++ fieldElement f).toList ++ ['\n'] ++ rest ≠
      linesText ["    </item>"] ++ more := by
    -- the line that closes an item stands further to the left
    intro f rest more h
    simp [linesText] at h
  intro fields fields' rest more heq
  apply (fieldLine_separates.flatMap hclose).opened (linesText ["    <item>"])
  simpa [itemLines, linesText, List.flatMap_map] using heq

lemma documents_separate :
    Separates (fun documents => linesText (documents.flatMap itemLines ++ ["  </docs>", "</display>"]))
      (List.map (List.map shownField)) := by
  have hclose : ∀ fields rest more, linesText (itemLines fields) ++ rest ≠
      linesText ["  </docs>", "</display>"] ++ more := by
    intro fields rest more h
    simp [itemLines, linesText] at h
  intro documents documents' rest more h
  simp only [linesText_append, linesText_flatMap] at h
  exact itemLines_separates.flatMap hclose h

lemma summaryLine_separates (key : String) :
    Separates (fun text => ("  " ++ element key text).toList ++ ['\n']) id := by
  simp only [String.toList_append]
  exact ((element_separates key).opened _).closed _

lemma summaryLines_inj {s s' : List (String × String)} {rest more : List Char}
    (hkeys : s.map Prod.fst = s'.map Prod.fst)
    (h : linesText (s.map fun pair => "  " ++ element pair.1 pair.2) ++ rest =
      linesText (s'.map fun pair => "  " ++ element pair.1 pair.2) ++ more) : s = s' ∧ rest = more := by
  induction s generalizing s' with
  | nil =>
    obtain rfl : s' = [] := List.map_eq_nil_iff.mp hkeys.symm
    exact ⟨rfl, h⟩
  | cons pair s ih =>
    cases s' with
    | nil => cases hkeys
    | cons pair' s' =>
      obtain ⟨hkey, hkeys'⟩ := List.cons.inj hkeys
      simp only [List.map_cons, linesText_cons, List.append_assoc _ _ rest, List.append_assoc _ _ more] at h
      rw [← hkey] at h
      obtain ⟨htext, htail⟩ := summaryLine_separates pair.1 h
      obtain ⟨rfl, hrest⟩ := ih hkeys' htail
      exact ⟨by rw [Prod.ext hkey htext], hrest⟩

/-! ### Replies -/

/-- A field that shows a name and a text. -/
def textField (pair : String × String) : String × FieldValue := (pair.1, .text pair.2)

lemma itemLines_shown (fields : Fields) : itemLines ((fields.map shownField).map textField) = itemLines fields := by
  unfold itemLines
  rw [List.map_map, List.map_map]
  rfl

lemma documentLines_shown (documents : List Fields) :
    documents.flatMap itemLines =
      (documents.map (List.map shownField)).flatMap fun shown => itemLines (shown.map textField) := by
  rw [List.flatMap_map]
  simp only [itemLines_shown]

lemma xml_eq_iff {s s' : List (String × String)} (hkeys : s.map Prod.fst = s'.map Prod.fst) (cost : String)
    (documents documents' : List Fields) :
    Reply.xml s cost documents = Reply.xml s' cost documents' ↔
      s = s' ∧ documents.map (List.map shownField) = documents'.map (List.map shownField) := by
  constructor
  · intro h
    have hlines : linesText (xmlLines s cost documents) = linesText (xmlLines s' cost documents') := by
      rw [← toList_join_lines, ← toList_join_lines]
      exact congrArg String.toList h
    simp only [xmlLines, List.append_assoc, linesText_append, List.append_cancel_left_eq] at hlines
    obtain ⟨hs, hrest⟩ := summaryLines_inj hkeys hlines
    rw [List.append_cancel_left_eq, ← linesText_append, ← linesText_append] at hrest
    exact ⟨hs, (documents_separate (congrArg (· ++ []) hrest)).1⟩
  · rintro ⟨rfl, hshown⟩
    unfold Reply.xml xmlLines
    rw [documentLines_shown documents, hshown, ← documentLines_shown]

/-! ### Summaries -/

lemma toString_inj {m n : Nat} (h : toString m = toString n) : m = n := by
  have hdigits : Nat.toDigits 10 m = Nat.toDigits 10 n := String.ofList_injective h
  rw [← @Nat.ofDigitChars_ten_toDigits m, ← @Nat.ofDigitChars_ten_toDigits n, hdigits]

lemma costText_inj {m n : UInt64} (h : costText m.toNat = costText n.toNat) : m = n := by
  apply UInt64.toNat_inj.mp
  apply toString_inj
  exact (String.append_left_inj "us").mp h

lemma summary_eq_iff (r r' : Response) :
    summary r = summary r' ↔
      r.query = r'.query ∧ r.documents.length = r'.documents.length ∧ r.totalFound = r'.totalFound ∧
        r.costs = r'.costs := by
  constructor
  · intro h
    simp only [summary, List.cons.injEq, Prod.mk.injEq, true_and, and_true] at h
    obtain ⟨hquery, hcount, htotal, hparse, hsegment, hsearch⟩ := h
    have hcosts : r.costs = r'.costs := by
      rw [Costs.mk.injEq]
      exact ⟨costText_inj hparse, costText_inj hsegment, costText_inj hsearch⟩
    exact ⟨hquery, toString_inj hcount, toString_inj htotal, hcosts⟩
  · rintro ⟨hquery, hcount, htotal, hcosts⟩
    unfold summary
    rw [hquery, hcount, htotal, hcosts]

/-- What a reply shows of a document: the names of its fields and the texts of their values, in order. -/
def shownFields (attributes : AttributeStore) (ordinal : Ordinal) : List (String × String) :=
  (project attributes ordinal).map shownField

/-- The texts that a reply shows of a document are those that a filter compares, for all of its unsigned and
string attributes. -/
theorem mem_shownFields_iff {attributes : AttributeStore} {ordinal : Ordinal} {document : Document}
    (h : attributes.document? ordinal = some document) {name text : String} :
    (name, text) ∈ shownFields attributes ordinal ↔
      ∃ kind, (kind = .unsigned ∨ kind = .string) ∧ ∃ place,
        (attributes.names kind)[place]? = some name ∧ document.values.text? kind place = some text := by
  obtain ⟨-, hdocument⟩ := Option.ite_none_right_eq_some.mp h
  obtain rfl := Option.some.inj hdocument
  rw [shownFields, List.mem_map]
  constructor
  · rintro ⟨⟨_, value⟩, hfield, hshown⟩
    obtain ⟨rfl, rfl⟩ := Prod.mk.inj hshown
    obtain ⟨place, hplace⟩ := List.mem_iff_getElem?.mp hfield
    rcases getElem?_project.mp hplace with ⟨hname, n, hn, rfl⟩ | ⟨later, -, hname, s, hs, rfl⟩
    · exact ⟨.unsigned, .inl rfl, place, hname, Option.map_eq_some_iff.mpr ⟨n, hn, rfl⟩⟩
    · exact ⟨.string, .inr rfl, later, hname, hs⟩
  · rintro ⟨kind, rfl | rfl, place, hname, htext⟩
    · obtain ⟨n, hn, rfl⟩ := Option.map_eq_some_iff.mp htext
      have hfield : (name, .number n) ∈ project attributes ordinal :=
        List.mem_of_getElem? (getElem?_project.mpr (.inl ⟨hname, n, hn, rfl⟩))
      exact ⟨_, hfield, rfl⟩
    · have hfield : (name, .text text) ∈ project attributes ordinal :=
        List.mem_of_getElem? (getElem?_project.mpr (.inr ⟨place, rfl, hname, text, htext, rfl⟩))
      exact ⟨_, hfield, rfl⟩

/-- Two replies in XML are the same text exactly when they show the same: the query, the counts, the costs and,
document by document, the same names with the same texts in the same order. Nothing that a query, a name or a
value holds makes one reply pass for another. -/
theorem xml_replies_show_alike (packCost : Nat) (attributes attributes' : AttributeStore) (r r' : Response) :
    ReplyFormat.xml.render packCost attributes r = ReplyFormat.xml.render packCost attributes' r' ↔
      r.query = r'.query ∧ r.documents.length = r'.documents.length ∧ r.totalFound = r'.totalFound ∧
        r.costs = r'.costs ∧
        r.documents.map (shownFields attributes) = r'.documents.map (shownFields attributes') := by
  have hshown : ∀ (attributes : AttributeStore) (r : Response),
      (r.documents.map (project attributes)).map (List.map shownField) =
        r.documents.map (shownFields attributes) := fun _ _ => List.map_map
  have hkeys : (summary r).map Prod.fst = (summary r').map Prod.fst := rfl
  have hxml := xml_eq_iff hkeys (costText packCost)
    (r.documents.map (project attributes)) (r'.documents.map (project attributes'))
  rw [hshown, hshown, summary_eq_iff] at hxml
  simp only [and_assoc] at hxml
  exact hxml

end TextSearch.Proofs
