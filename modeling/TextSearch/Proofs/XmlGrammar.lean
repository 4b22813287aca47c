import Mathlib.Data.List.Basic
import Mathlib.Tactic.Lemma
import TextSearch.Unicode.Ranges

/-!
# XML documents

The part of XML that has elements with attributes, texts and the five entities that need no declaration. In a
document every character and every name of an element is one that the rules allow, and every tag that opens an
element holds such a name.
-/

namespace TextSearch.Proofs
open Unicode

/-! ### Characters and names -/

/-- The production `Char`. -/
def xmlCharRanges : Ranges :=
  [(0x9, 0xA), (0xD, 0xD), (0x20, 0xD7FF), (0xE000, 0xFFFD), (0x10000, 0x10FFFF)]

/-- The production `NameStartChar`. -/
def nameStartRanges : Ranges :=
  [(0x3A, 0x3A), (0x41, 0x5A), (0x5F, 0x5F), (0x61, 0x7A), (0xC0, 0xD6), (0xD8, 0xF6), (0xF8, 0x2FF),
   (0x370, 0x37D), (0x37F, 0x1FFF), (0x200C, 0x200D), (0x2070, 0x218F), (0x2C00, 0x2FEF), (0x3001, 0xD7FF),
   (0xF900, 0xFDCF), (0xFDF0, 0xFFFD), (0x10000, 0xEFFFF)]

/-- The production `NameChar`. -/
def nameCharRanges : Ranges :=
  [(0x2D, 0x2E), (0x30, 0x3A), (0x41, 0x5A), (0x5F, 0x5F), (0x61, 0x7A), (0xB7, 0xB7), (0xC0, 0xD6),
   (0xD8, 0xF6), (0xF8, 0x37D), (0x37F, 0x1FFF), (0x200C, 0x200D), (0x203F, 0x2040), (0x2070, 0x218F),
   (0x2C00, 0x2FEF), (0x3001, 0xD7FF), (0xF900, 0xFDCF), (0xFDF0, 0xFFFD), (0x10000, 0xEFFFF)]

def isXmlChar (c : Char) : Bool := xmlCharRanges.covers c

/-- The production `Name`. -/
def isXmlName : List Char → Bool
  | [] => false
  | c :: rest => nameStartRanges.covers c && rest.all nameCharRanges.covers

/-- Which characters a document may hold, and which names its elements and attributes may have. -/
structure XmlRules where
  legal : Char → Prop
  isName : List Char → Prop

/-- The rules of XML 1.0. -/
def xmlRules : XmlRules := ⟨fun c => isXmlChar c = true, fun name => isXmlName name = true⟩

/-! ### Grammar -/

/-- The names of the entities that need no declaration. -/
def entityNames : List (List Char) :=
  [['a', 'm', 'p'], ['l', 't'], ['g', 't'], ['q', 'u', 'o', 't'], ['a', 'p', 'o', 's']]

/-- Characters and entities. Some marks cannot stand for themselves. -/
inductive IsText (rules : XmlRules) (marks : List Char) : List Char → Prop where
  | nil : IsText rules marks []
  | char {c : Char} {rest : List Char} (hc : rules.legal c) (hmark : c ∉ marks)
      (hrest : IsText rules marks rest) : IsText rules marks (c :: rest)
  | entity {name rest : List Char} (hname : name ∈ entityNames) (hrest : IsText rules marks rest) :
      IsText rules marks ('&' :: name ++ ';' :: rest)

/-- The marks in the text of an element. The last of them closes tags only, so no text ends a section. -/
def textMarks : List Char := ['<', '&', '>']

/-- The marks in the value of an attribute. -/
def valueMarks : List Char := ['<', '&', '"']

/-- The attributes in a tag: each behind a blank, each name once. -/
structure IsAttributeList (rules : XmlRules) (attributes : List (List Char × List Char)) : Prop where
  name : ∀ a ∈ attributes, rules.isName a.1
  value : ∀ a ∈ attributes, IsText rules valueMarks a.2
  unique : (attributes.map Prod.fst).Nodup

def attributeText (a : List Char × List Char) : List Char := ' ' :: a.1 ++ '=' :: '"' :: a.2 ++ ['"']

/-- An element: a tag with a name and attributes, what it holds, and a tag with the same name. -/
def elementText (name : List Char) (attributes : List (List Char × List Char)) (inner : List Char) : List Char :=
  '<' :: name ++ attributes.flatMap attributeText ++ '>' :: inner ++ '<' :: '/' :: name ++ ['>']

/-- What an element may hold: texts with elements in between, whose tags balance. -/
inductive IsContent (rules : XmlRules) : List Char → Prop where
  | text {t : List Char} (ht : IsText rules textMarks t) : IsContent rules t
  | element {t name inner rest : List Char} {attributes : List (List Char × List Char)}
      (ht : IsText rules textMarks t) (hname : rules.isName name) (hattributes : IsAttributeList rules attributes)
      (hinner : IsContent rules inner) (hrest : IsContent rules rest) :
      IsContent rules (t ++ elementText name attributes inner ++ rest)

/-- The declaration that a document starts with. -/
def xmlDeclaration : List Char := "<?xml version=\"1.0\" encoding=\"utf-8\"?>".toList

def isXmlBlank (c : Char) : Bool := c == ' ' || c == '\t' || c == '\n' || c == '\r'

/-- A document: the declaration and one element, with blanks behind each of them. -/
def IsDocument (rules : XmlRules) (document : List Char) : Prop :=
  ∃ before name attributes inner after, before.all isXmlBlank ∧ after.all isXmlBlank ∧ rules.isName name ∧
    IsAttributeList rules attributes ∧ IsContent rules inner ∧
    document = xmlDeclaration ++ before ++ elementText name attributes inner ++ after

/-! ### Contents put together -/

section Contents

variable {rules : XmlRules} {marks xs ys : List Char}

lemma IsText.append (hx : IsText rules marks xs) (hy : IsText rules marks ys) : IsText rules marks (xs ++ ys) := by
  induction hx with
  | nil => exact hy
  | char hc hmark _ ih => exact .char hc hmark ih
  | entity hname _ ih =>
    have hentity := IsText.entity hname ih
    rwa [← List.cons_append, ← List.append_assoc] at hentity

lemma isText_of_forall (hlegal : ∀ c ∈ xs, rules.legal c) (hmarks : ∀ c ∈ xs, c ∉ marks) :
    IsText rules marks xs := by
  induction xs with
  | nil => exact .nil
  | cons c rest ih =>
    obtain ⟨hc, hlegal⟩ := List.forall_mem_cons.mp hlegal
    obtain ⟨hmark, hmarks⟩ := List.forall_mem_cons.mp hmarks
    exact .char hc hmark (ih hlegal hmarks)

lemma IsContent.text_append (hx : IsText rules textMarks xs) (hy : IsContent rules ys) :
    IsContent rules (xs ++ ys) := by
  cases hy with
  | text hy => exact .text (hx.append hy)
  | element ht hname hattributes hinner hrest =>
    have hcontent := IsContent.element (hx.append ht) hname hattributes hinner hrest
    simp only [List.append_assoc] at hcontent ⊢
    exact hcontent

lemma IsContent.append (hx : IsContent rules xs) (hy : IsContent rules ys) : IsContent rules (xs ++ ys) := by
  induction hx with
  | text ht => exact hy.text_append ht
  | element ht hname hattributes hinner _ _ ih =>
    rw [List.append_assoc]
    exact .element ht hname hattributes hinner ih

lemma isContent_element {name inner : List Char} {attributes : List (List Char × List Char)}
    (hname : rules.isName name) (hattributes : IsAttributeList rules attributes) (hinner : IsContent rules inner) :
    IsContent rules (elementText name attributes inner) := by
  have hcontent := IsContent.element .nil hname hattributes hinner (.text .nil)
  rwa [List.nil_append, List.append_nil] at hcontent

lemma isContent_flatMap {α : Type} {f : α → List Char} {as : List α} (h : ∀ a ∈ as, IsContent rules (f a)) :
    IsContent rules (as.flatMap f) := by
  induction as with
  | nil => exact .text .nil
  | cons a as ih =>
    obtain ⟨ha, has⟩ := List.forall_mem_cons.mp h
    exact ha.append (ih has)

end Contents

/-! ### Characters and tags of a document -/

lemma covers_of_mem {rs : Ranges} (hsorted : rs.Pairwise fun r s => r.1 ≤ s.1) {c : Char} {r : Nat × Nat}
    (hr : r ∈ rs) (hlo : r.1 ≤ c.toNat) (hhi : c.toNat ≤ r.2) : rs.covers c = true := by
  induction rs with
  | nil => cases hr
  | cons s rs ih =>
    obtain ⟨hfirst, hrest⟩ := List.pairwise_cons.mp hsorted
    rw [Ranges.covers, Bool.and_eq_true, Bool.or_eq_true, decide_eq_true_eq, decide_eq_true_eq]
    rcases List.mem_cons.mp hr with rfl | hr
    · exact ⟨hlo, .inl hhi⟩
    · exact ⟨Nat.le_trans (hfirst r hr) hlo, .inr (ih hrest hr)⟩

/-- Ranges that lie within others cover no more. -/
lemma covers_of_within {rs ss : Ranges} (hsorted : ss.Pairwise fun r s => r.1 ≤ s.1)
    (hwithin : ∀ r ∈ rs, ∃ s ∈ ss, s.1 ≤ r.1 ∧ r.2 ≤ s.2) {c : Char} (h : rs.covers c = true) :
    ss.covers c = true := by
  obtain ⟨r, hr, hlo, hhi⟩ := Ranges.exists_of_covers h
  obtain ⟨s, hs, hbelow, habove⟩ := hwithin r hr
  exact covers_of_mem hsorted hs (Nat.le_trans hbelow hlo) (Nat.le_trans hhi habove)

lemma isXmlChar_of_nameChar {c : Char} (h : nameCharRanges.covers c = true) : isXmlChar c = true :=
  covers_of_within (by decide) (by decide) h

lemma nameChar_of_nameStart {c : Char} (h : nameStartRanges.covers c = true) : nameCharRanges.covers c = true :=
  covers_of_within (by decide) (by decide) h

lemma nameChar_of_mem {name : List Char} (h : isXmlName name = true) {c : Char} (hc : c ∈ name) :
    nameCharRanges.covers c = true := by
  cases name with
  | nil => cases hc
  | cons d rest =>
    rw [isXmlName, Bool.and_eq_true, List.all_eq_true] at h
    rcases List.mem_cons.mp hc with rfl | hc
    · exact nameChar_of_nameStart h.1
    · exact h.2 c hc

/-- Characters that are allowed and open no tag. -/
def Plain (text : List Char) : Prop := ∀ c ∈ text, isXmlChar c = true ∧ c ≠ '<'

instance (text : List Char) : Decidable (Plain text) := List.decidableBAll ..

section Plain

variable {marks xs ys : List Char}

lemma Plain.append (hx : Plain xs) (hy : Plain ys) : Plain (xs ++ ys) := List.forall_mem_append.mpr ⟨hx, hy⟩

lemma plain_name {name : List Char} (h : isXmlName name = true) : Plain name := by
  intro c hc
  have hchar : nameCharRanges.covers c = true := nameChar_of_mem h hc
  refine ⟨isXmlChar_of_nameChar hchar, ?_⟩
  rintro rfl
  exact absurd hchar (by decide)

lemma plain_entity {name : List Char} (h : name ∈ entityNames) : Plain ('&' :: name ++ [';']) := by
  have hall : ∀ name ∈ entityNames, Plain ('&' :: name ++ [';']) := by decide
  exact hall name h

lemma IsText.plain (hopen : '<' ∈ marks) (h : IsText xmlRules marks xs) : Plain xs := by
  induction h with
  | nil => exact fun c hc => absurd hc List.not_mem_nil
  | char hc hmark _ ih => exact List.forall_mem_cons.mpr ⟨⟨hc, fun h => hmark (h ▸ hopen)⟩, ih⟩
  | @entity name rest hname _ ih =>
    have hentity := (plain_entity hname).append ih
    rwa [List.append_assoc, List.singleton_append] at hentity

lemma plain_attributes {attributes : List (List Char × List Char)} (h : IsAttributeList xmlRules attributes) :
    Plain (attributes.flatMap attributeText) := by
  have hopening : Plain ['=', '"'] := by decide
  have hblank : Plain [' '] := by decide
  have hquote : Plain ['"'] := by decide
  intro c hc
  obtain ⟨a, ha, hc⟩ := List.mem_flatMap.mp hc
  have hname : Plain a.1 := plain_name (h.name a ha)
  have hvalue : Plain a.2 := (h.value a ha).plain (by decide)
  have hattribute := (hblank.append hname).append ((hopening.append hvalue).append hquote)
  exact hattribute c (by simpa [attributeText] using hc)

end Plain

/-- What follows a mark that opens a tag: what closes an element, the declaration, or an allowed name up to a
blank or the mark that closes the tag. -/
def OpensTag (after : List Char) : Prop :=
  after.head? = some '/' ∨ after.head? = some '?' ∨
    ∃ name rest, isXmlName name = true ∧ after = name ++ rest ∧ (rest.head? = some ' ' ∨ rest.head? = some '>')

/-- Whether all characters of a text are allowed and all its tags hold allowed names. -/
structure Tidy (text : List Char) : Prop where
  legal : ∀ c ∈ text, isXmlChar c = true
  tags : ∀ before after, text = before ++ '<' :: after → OpensTag after

section Tidy

variable {xs ys : List Char}

lemma OpensTag.append (h : OpensTag xs) (ys : List Char) : OpensTag (xs ++ ys) := by
  rcases h with h | h | ⟨name, rest, hname, rfl, hrest⟩
  · exact .inl (List.mem_head?_append_of_mem_head? h)
  · exact .inr (.inl (List.mem_head?_append_of_mem_head? h))
  · refine .inr (.inr ⟨name, rest ++ ys, hname, List.append_assoc .., ?_⟩)
    exact hrest.imp List.mem_head?_append_of_mem_head? List.mem_head?_append_of_mem_head?

lemma Plain.tidy (h : Plain xs) : Tidy xs where
  legal c hc := (h c hc).1
  tags before _ hxs := absurd rfl (h '<' (hxs ▸ List.mem_append_right before List.mem_cons_self)).2

lemma Tidy.append (hx : Tidy xs) (hy : Tidy ys) : Tidy (xs ++ ys) where
  legal := List.forall_mem_append.mpr ⟨hx.legal, hy.legal⟩
  tags before after h := by
    -- the mark stands in one part or in the other
    rcases List.append_eq_append_iff.mp h with ⟨middle, rfl, hys⟩ | ⟨middle, hxs, hafter⟩
    · exact hy.tags middle after hys
    · cases middle with
      | nil => exact hy.tags [] after hafter.symm
      | cons c middle =>
        obtain ⟨rfl, rfl⟩ := List.cons.inj hafter
        exact (hx.tags before middle hxs).append ys

lemma Tidy.tag (hopens : OpensTag xs) (hx : Tidy xs) : Tidy ('<' :: xs) where
  legal := List.forall_mem_cons.mpr ⟨by decide, hx.legal⟩
  tags before after h := by
    cases before with
    | nil => exact (List.cons.inj h).2 ▸ hopens
    | cons c before => exact hx.tags before after (List.cons.inj h).2

lemma tidy_elementText {name inner : List Char} {attributes : List (List Char × List Char)}
    (hname : isXmlName name = true) (hattributes : IsAttributeList xmlRules attributes) (hinner : Tidy inner) :
    Tidy (elementText name attributes inner) := by
  have hclose : Plain ['>'] := by decide
  have hslash : Plain ['/'] := by decide
  have hend : Tidy ('<' :: (['/'] ++ name ++ ['>'])) :=
    .tag (.inl rfl) ((hslash.append (plain_name hname)).append hclose).tidy
  have hheld : Tidy (['>'] ++ inner ++ '<' :: (['/'] ++ name ++ ['>'])) := (hclose.tidy.append hinner).append hend
  have hopens : OpensTag (name ++ (attributes.flatMap attributeText ++
      (['>'] ++ inner ++ '<' :: (['/'] ++ name ++ ['>'])))) := by
    refine .inr (.inr ⟨name, _, hname, rfl, ?_⟩)
    cases attributes with
    | nil => exact .inr rfl
    | cons a rest => exact .inl rfl
  have hstart := Tidy.tag hopens ((plain_name hname).tidy.append ((plain_attributes hattributes).tidy.append hheld))
  simpa [elementText] using hstart

lemma IsContent.tidy (h : IsContent xmlRules xs) : Tidy xs := by
  induction h with
  | text ht => exact (ht.plain (by decide)).tidy
  | element ht hname hattributes _ _ hinner hrest =>
    exact ((ht.plain (by decide)).tidy.append (tidy_elementText hname hattributes hinner)).append hrest

lemma plain_of_blank (h : xs.all isXmlBlank = true) : Plain xs := by
  intro c hc
  have hblank : isXmlBlank c = true := List.all_eq_true.mp h c hc
  simp only [isXmlBlank, Bool.or_eq_true, beq_iff_eq] at hblank
  rcases hblank with ((rfl | rfl) | rfl) | rfl <;> decide

/-- A document holds allowed characters only, and allowed names in all its tags. -/
lemma IsDocument.tidy (h : IsDocument xmlRules xs) : Tidy xs := by
  obtain ⟨before, name, attributes, inner, after, hbefore, hafter, hname, hattributes, hinner, rfl⟩ := h
  have hdeclaration : Tidy xmlDeclaration := by
    have hplain : Plain xmlDeclaration.tail := by decide
    exact .tag (.inr (.inl rfl)) hplain.tidy
  have hroot : Tidy (elementText name attributes inner) := tidy_elementText hname hattributes hinner.tidy
  exact ((hdeclaration.append (plain_of_blank hbefore).tidy).append hroot).append (plain_of_blank hafter).tidy

end Tidy

end TextSearch.Proofs
