import TextSearch.Proofs.BuildThenSearch
import TextSearch.Proofs.BuilderHistories

/-!
# Contents of the built postings

Which terms have postings, and what each posting says, is read off the rows: the fields of a row in
which a text is a token, with its positions there. Each field counts for itself.
-/

namespace TextSearch.Proofs

variable {schema : Schema} {segmenter : Segmenter}

/-- The tokens of a column, unless the row lacks it or its text cannot be cut. -/
def columnTokens? (segmenter : Segmenter) (row : Row) (name : String) : Option (List Token) :=
  (row.text? name).bind fun raw => (segmenter raw).toOption

/-- The tokens of a text field of a row. -/
def tokensAt (schema : Schema) (segmenter : Segmenter) (row : Row) (i : Nat) : List Token :=
  (schema.text[i]?.bind (columnTokens? segmenter row)).getD []

def positionsOf (text : String) (tokens : List Token) : List UInt8 :=
  (tokens.filter fun token => token.text = text).map fun token =>
    UInt8.ofNat (token.position.toNat % 256)

def hitAt? (schema : Schema) (segmenter : Segmenter) (row : Row) (text : String) (i : Nat) :
    Option FieldHit :=
  let positions := positionsOf text (tokensAt schema segmenter row i)
  if positions = [] then none else some ⟨UInt8.ofNat i, positions⟩

/-- The fields of a row in which a text is a token, in ascending order, with its positions. -/
def hitsOf (schema : Schema) (segmenter : Segmenter) (row : Row) (text : String) : List FieldHit :=
  (List.range 256).filterMap (hitAt? schema segmenter row text)

section Hits

variable {row : Row} {text : String}

lemma mem_tokensAt {i : Nat} {token : Token} :
    token ∈ tokensAt schema segmenter row i ↔
      ∃ name raw tokens, schema.text[i]? = some name ∧ row.text? name = some raw ∧
        segmenter raw = .ok tokens ∧ token ∈ tokens := by
  unfold tokensAt columnTokens?
  cases schema.text[i]? with
  | none => simp
  | some name =>
    cases hraw : row.text? name with
    | none => simp [hraw]
    | some raw => cases hcut : segmenter raw <;> simp [hraw, hcut, Except.toOption]

lemma positionsOf_ne_nil_iff {tokens : List Token} :
    positionsOf text tokens ≠ [] ↔ ∃ token ∈ tokens, token.text = text := by
  simp [positionsOf]

lemma hitAt?_eq_some_iff {i : Nat} (hi : i < 256) {hit : FieldHit} :
    hitAt? schema segmenter row text i = some hit ↔
      hit.field.toNat = i ∧ hit.positions = positionsOf text (tokensAt schema segmenter row i) ∧
        hit.positions ≠ [] := by
  have hfield : (UInt8.ofNat i).toNat = i := UInt8.toNat_ofNat_of_lt' hi
  unfold hitAt?
  dsimp only
  constructor
  · intro h
    split at h
    · exact absurd h (by simp)
    · rename_i hne
      obtain rfl := Option.some.inj h
      exact ⟨hfield, rfl, hne⟩
  · rintro ⟨rfl, hpositions, hne⟩
    rw [← hpositions, if_neg hne, UInt8.ofNat_toNat]

lemma mem_hitsOf {hit : FieldHit} :
    hit ∈ hitsOf schema segmenter row text ↔
      hit.positions = positionsOf text (tokensAt schema segmenter row hit.field.toNat) ∧
        hit.positions ≠ [] := by
  rw [hitsOf, List.mem_filterMap]
  constructor
  · rintro ⟨i, hi, hhit⟩
    obtain ⟨rfl, h⟩ := (hitAt?_eq_some_iff (List.mem_range.mp hi)).mp hhit
    exact h
  · intro h
    have hlt : hit.field.toNat < 256 := hit.field.toNat_lt
    exact ⟨hit.field.toNat, List.mem_range.mpr hlt, (hitAt?_eq_some_iff hlt).mpr ⟨rfl, h⟩⟩

lemma pairwise_hitsOf (schema : Schema) (segmenter : Segmenter) (row : Row) (text : String) :
    (hitsOf schema segmenter row text).Pairwise fun a b => a.field < b.field := by
  rw [hitsOf, List.pairwise_filterMap]
  refine List.pairwise_lt_range.imp_of_mem fun {i j} hi hj hlt a ha b hb => ?_
  have hfield := ((hitAt?_eq_some_iff (List.mem_range.mp hi)).mp ha).1
  have hfield' := ((hitAt?_eq_some_iff (List.mem_range.mp hj)).mp hb).1
  rw [UInt8.lt_iff_toNat_lt, hfield, hfield']
  exact hlt

lemma hitsOf_ne_nil_iff (schema : Schema) (segmenter : Segmenter) (row : Row) (text : String) :
    hitsOf schema segmenter row text ≠ [] ↔ HasToken schema segmenter row text := by
  constructor
  · intro h
    obtain ⟨hit, hhit⟩ := List.exists_mem_of_ne_nil _ h
    obtain ⟨hpositions, hne⟩ := mem_hitsOf.mp hhit
    rw [hpositions] at hne
    obtain ⟨token, htoken, rfl⟩ := positionsOf_ne_nil_iff.mp hne
    obtain ⟨name, raw, tokens, hname, hraw, hok, hmem⟩ := mem_tokensAt.mp htoken
    exact ⟨hit.field.toNat, hit.field.toNat_lt, name, raw, tokens, hname, hraw, hok, token, hmem, rfl⟩
  · rintro ⟨i, hi, name, raw, tokens, hname, hraw, hok, token, hmem, rfl⟩
    have hpositions : positionsOf token.text (tokensAt schema segmenter row i) ≠ [] :=
      positionsOf_ne_nil_iff.mpr
        ⟨token, mem_tokensAt.mpr ⟨name, raw, tokens, hname, hraw, hok, hmem⟩, rfl⟩
    have hhit : hitAt? schema segmenter row token.text i =
        some ⟨UInt8.ofNat i, positionsOf token.text (tokensAt schema segmenter row i)⟩ :=
      if_neg hpositions
    exact List.ne_nil_of_mem (List.mem_filterMap.mpr ⟨i, List.mem_range.mpr hi, hhit⟩)

instance (schema : Schema) (segmenter : Segmenter) (row : Row) (text : String) :
    Decidable (HasToken schema segmenter row text) :=
  decidable_of_iff _ (hitsOf_ne_nil_iff schema segmenter row text)

end Hits

/-- Different text fields have different numbers. -/
lemma itemsFor_fields (schema : Schema) (number : UInt8) :
    itemsFor number schema.fields = schema.text[number.toNat]?.toList := by
  have htoNat : ∀ {entry : String × Nat}, entry ∈ (schema.text.take 256).zipIdx →
      (UInt8.ofNat entry.2).toNat = entry.2 := by
    intro entry hentry
    have htaken := List.snd_lt_of_mem_zipIdx hentry
    rw [Nat.add_zero, List.length_take] at htaken
    exact UInt8.toNat_ofNat_of_lt' (Nat.lt_of_lt_of_le htaken (Nat.min_le_left _ _))
  unfold Schema.fields
  apply itemsFor_eq_toList
  · rw [List.pairwise_map]
    refine (pairwise_zipIdx _).imp_of_mem fun {a b} ha hb hlt he => ?_
    have heq := congrArg UInt8.toNat he
    rw [htoNat ha, htoNat hb] at heq
    omega
  · intro name
    rw [List.mem_map]
    constructor
    · rintro ⟨entry, hmem, he⟩
      obtain ⟨rfl, rfl⟩ := Prod.mk.inj he
      rw [htoNat hmem]
      rw [List.mem_zipIdx_iff_getElem?, List.getElem?_take] at hmem
      split at hmem
      · exact hmem
      · exact absurd hmem (by simp)
    · intro hname
      refine ⟨(name, number.toNat), ?_, by simp⟩
      rw [List.mem_zipIdx_iff_getElem?, List.getElem?_take, if_pos number.toNat_lt]
      exact hname

lemma fieldTokens_eq_flatMap (schema : Schema) (segmenter : Segmenter) (row : Row) :
    row.fieldTokens schema segmenter = schema.fields.flatMap fun field =>
      (columnTokens? segmenter row field.2).toList.map fun tokens => (field.1, tokens) := by
  unfold Row.fieldTokens columnTokens?
  rw [List.filterMap_eq_flatMap_toList]
  refine congrArg (List.flatMap · schema.fields) (funext fun field => ?_)
  cases row.text? field.2 with
  | none => rfl
  | some raw => cases hcut : segmenter raw <;> simp [hcut, Except.toOption]

lemma itemsFor_notesOf (text : String) (fields : List (UInt8 × List Token)) :
    itemsFor (Term.ofText text) (notesOf fields) =
      fields.flatMap fun field => (positionsOf text field.2).map fun position => (field.1, position) := by
  have hposition : ∀ token : Token,
      token.position.toUInt8 = UInt8.ofNat (token.position.toNat % 256) := by
    intro token
    rw [← UInt8.toNat_inj, UInt32.toNat_toUInt8, UInt8.toNat_ofNat', Nat.mod_mod]
  unfold itemsFor notesOf positionsOf
  simp only [List.filter_flatMap, List.map_flatMap, List.filter_map, List.map_map, Function.comp_def,
    ofText_inj, hposition]

/-- The places of a term that lie in one field come from that field alone. -/
lemma itemsFor_places (schema : Schema) (segmenter : Segmenter) (row : Row) (text : String)
    (number : UInt8) :
    itemsFor number (itemsFor (Term.ofText text) (notesOf (row.fieldTokens schema segmenter))) =
      positionsOf text (tokensAt schema segmenter row number.toNat) := by
  rw [itemsFor_notesOf, itemsFor_flatMap, fieldTokens_eq_flatMap,
    itemsFor_flatMap fun name => (columnTokens? segmenter row name).toList, itemsFor_fields]
  unfold tokensAt
  cases schema.text[number.toNat]? with
  | none => rfl
  | some name =>
    cases hcolumn : columnTokens? segmenter row name <;> simp [hcolumn, positionsOf]

lemma hits_addPlaces_eq (schema : Schema) (segmenter : Segmenter) (row : Row) (text : String) :
    FieldPositions.hits
        (addPlaces (itemsFor (Term.ofText text) (notesOf (row.fieldTokens schema segmenter)))
          Multimap.empty) =
      hitsOf schema segmenter row text := by
  have hirrefl : Std.Irrefl fun a b : FieldHit => a.field < b.field :=
    ⟨fun a => UInt8.lt_irrefl a.field⟩
  have hantisymm : Std.Antisymm fun a b : FieldHit => a.field < b.field :=
    ⟨fun a b hab hba => absurd hba (UInt8.lt_asymm hab)⟩
  have hgathered : ∀ positions : FieldPositions,
      (FieldPositions.hits positions).Pairwise fun a b => a.field < b.field := by
    intro positions
    rw [FieldPositions.hits, List.pairwise_map]
    exact positions.ascending_entries.imp Std.compare_eq_lt.mp
  -- both lists are in ascending order of the fields, so their members decide
  refine (hgathered _).eq_of_mem_iff (pairwise_hitsOf schema segmenter row text) fun hit => ?_
  rw [mem_hits_addPlaces, mem_hitsOf, itemsFor_places]

lemma posting?_fieldTokens (schema : Schema) (segmenter : Segmenter) (row : Row) (text : String)
    (ordinal : Ordinal) :
    posting? (Term.ofText text) ordinal (row.fieldTokens schema segmenter) =
      if HasToken schema segmenter row text then
        some (Posting.pack ordinal (hitsOf schema segmenter row text))
      else none := by
  have hplaces : itemsFor (Term.ofText text) (notesOf (row.fieldTokens schema segmenter)) = [] ↔
      ¬HasToken schema segmenter row text := by
    rw [hasToken_iff, ← itemsFor_notesOf_ne_nil_iff, ne_eq, not_not]
  unfold posting?
  rw [hits_addPlaces_eq]
  by_cases h : HasToken schema segmenter row text
  · rw [if_neg (mt hplaces.mp (not_not.mpr h)), if_pos h]
  · rw [if_pos (hplaces.mpr h), if_neg h]

/-- What the postings are after some rows: a term for each token, and for it a posting for each row that
has the token. -/
structure HoldsPostings (schema : Schema) (segmenter : Segmenter) (rows : List Row)
    (postings : PostingIndex) : Prop where
  few : rows.length ≤ UInt32.size
  terms : ∀ term, postings.contains term = true → term = Term.ofText term.text
  keys : ∀ text, postings.contains (Term.ofText text) = true ↔
    ∃ row ∈ rows, HasToken schema segmenter row text
  lists : ∀ text, postings.items (Term.ofText text) =
    (rows.zipIdx.filter fun entry => HasToken schema segmenter entry.1 text).map fun entry =>
      Posting.pack (UInt32.ofNat entry.2) (hitsOf schema segmenter entry.1 text)

lemma postingsAfter_ofText (schema : Schema) (segmenter : Segmenter) (rows : List Row)
    (text : String) :
    postingsAfter schema segmenter rows (Term.ofText text) =
      (rows.zipIdx.filter fun entry => HasToken schema segmenter entry.1 text).map fun entry =>
        Posting.pack (UInt32.ofNat entry.2) (hitsOf schema segmenter entry.1 text) := by
  unfold postingsAfter
  rw [← List.filterMap_eq_map, List.filterMap_filter]
  simp only [posting?_fieldTokens, decide_eq_true_eq, Function.comp_apply]

lemma Built.contains_iff {rows : List Row} {b : Builder} (h : Built schema segmenter rows b)
    (term : Term) :
    b.index.postings.contains term = true ↔
      ∃ row ∈ rows, ∃ field ∈ row.fieldTokens schema segmenter, ∃ token ∈ field.2,
        Term.ofText token.text = term := by
  rw [← postingsAfter_ne_nil_iff, Multimap.contains, h.items? term]
  split <;> simp_all

lemma Built.holdsPostings {rows : List Row} {b : Builder} (h : Built schema segmenter rows b) :
    HoldsPostings schema segmenter rows b.index.postings where
  few := h.few
  terms term hterm := by
    obtain ⟨-, -, -, -, token, -, rfl⟩ := (h.contains_iff term).mp hterm
    rfl
  keys text := by
    simp only [h.contains_iff, hasToken_iff]
  lists text := by
    rw [h.items, postingsAfter_ofText]

/-- The postings of a builder are determined by the rows that it took, whatever calls gave them and
whatever it refused. -/
theorem built_postings_exact (schema : Schema) (segmenter : Segmenter) :
    (∀ history, HoldsPostings schema segmenter
      ((takenIn (Builder.new schema segmenter) history).map Prod.fst)
      (fed (Builder.new schema segmenter) history).finish.postings) ∧
    ∀ (rows : List Row) (built : Index), buildIndex schema segmenter (rows.map .ok) = .ok built →
      HoldsPostings schema segmenter rows built.postings := by
  refine ⟨fun history => (numbered_history schema segmenter history).built.holdsPostings, ?_⟩
  intro rows built hbuild
  obtain ⟨rows', b, hrows, hb, rfl⟩ := built_buildIndex hbuild
  obtain rfl := List.map_injective_iff.mpr (fun _ _ => Except.ok.inj) hrows
  exact hb.holdsPostings

/-- Each text is a token twice, once far from the start. The text `bad` cannot be cut. -/
def echoed : Segmenter := fun s =>
  if s = "bad" then .error (.tokenizer s) else .ok [⟨s, 300⟩, ⟨"and", 1⟩, ⟨s, 2⟩]

def letters : Schema where
  text := ["title", "body", "title"]

def threeLetters : List Row :=
  [[("title", "cat"), ("body", "bad")], [("body", "hen")], [("body", "cat"), ("title", "and")]]

/-- The column that is named twice counts as two fields. -/
theorem built_postings_exact_three_letters :
    ∃ built, buildIndex letters echoed (threeLetters.map .ok) = .ok built ∧
      built.postings.items (Term.ofText "cat") =
        [⟨0, [0, 2, 44, 2, 2, 2, 44, 2]⟩, ⟨2, [1, 2, 44, 2]⟩] ∧
      built.postings.items (Term.ofText "and") =
        [⟨0, [0, 1, 1, 2, 1, 1]⟩, ⟨1, [1, 1, 1]⟩, ⟨2, [0, 3, 44, 1, 2, 1, 1, 1, 2, 3, 44, 1, 2]⟩] ∧
      built.postings.contains (Term.ofText "bad") = false := by
  obtain ⟨built, hbuild⟩ : ∃ built, buildIndex letters echoed (threeLetters.map .ok) = .ok built :=
    ⟨_, rfl⟩
  have hholds := (built_postings_exact letters echoed).2 threeLetters built hbuild
  have hbad : ¬∃ row ∈ threeLetters, HasToken letters echoed row "bad" := by decide +kernel
  refine ⟨built, hbuild, ?_, ?_, ?_⟩
  · rw [hholds.lists]
    decide +kernel
  · rw [hholds.lists]
    decide +kernel
  · rw [Bool.eq_false_iff, ne_eq, hholds.keys]
    exact hbad

end TextSearch.Proofs
