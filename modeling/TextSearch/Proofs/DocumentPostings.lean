import TextSearch.Index.Builder
import TextSearch.Proofs.Multimaps
import TextSearch.Proofs.PackedPayloads

/-!
# Postings of one document

A document gives one posting to every term that some token of its fields spells, and none to any other
term. Where the token stands, and whether its position was kept, does not matter.
-/

namespace TextSearch.Proofs

lemma ofText_inj {a b : String} : Term.ofText a = Term.ofText b ↔ a = b :=
  ⟨fun h => congrArg Term.text h, fun h => congrArg Term.ofText h⟩

/-- The terms that the tokens of a document spell, each with its field and its position. -/
def notesOf (fields : List (UInt8 × List Token)) : List (Term × UInt8 × UInt8) :=
  fields.flatMap fun field => field.2.map fun token =>
    (Term.ofText token.text, field.1, token.position.toUInt8)

def note (hits : DocumentHits) (noted : Term × UInt8 × UInt8) : DocumentHits :=
  hits.alter noted.1 fun known => some ((known.getD Multimap.empty).add noted.2.1 noted.2.2)

def addPlaces (places : List (UInt8 × UInt8)) (known : FieldPositions) : FieldPositions :=
  places.foldl (fun m place => m.add place.1 place.2) known

lemma getElem?_note (hits : DocumentHits) (noted : Term × UInt8 × UInt8) (term : Term) :
    (note hits noted)[term]? =
      if noted.1 = term then
        some ((hits[term]?.getD Multimap.empty).add noted.2.1 noted.2.2)
      else hits[term]? := by
  rw [note, Std.ExtTreeMap.getElem?_alter]
  by_cases h : noted.1 = term
  · rw [if_pos (Std.LawfulEqOrd.compare_eq_iff_eq.mpr h), if_pos h, h]
  · rw [if_neg fun he => h (Std.LawfulEqOrd.compare_eq_iff_eq.mp he), if_neg h]

lemma getElem?_foldl_note (notes : List (Term × UInt8 × UInt8)) (hits : DocumentHits)
    (term : Term) :
    (notes.foldl note hits)[term]? =
      if itemsFor term notes = [] then hits[term]?
      else some (addPlaces (itemsFor term notes) (hits[term]?.getD Multimap.empty)) := by
  induction notes generalizing hits with
  | nil => rfl
  | cons noted notes ih =>
    rw [List.foldl_cons, ih, getElem?_note, itemsFor_cons]
    by_cases h : noted.1 = term
    · rw [if_pos h, if_pos h, if_neg (List.cons_ne_nil _ _), Option.getD_some]
      by_cases hrest : itemsFor term notes = []
      · rw [if_pos hrest, hrest]
        rfl
      · rw [if_neg hrest]
        rfl
    · rw [if_neg h, if_neg h]

lemma ofFields_eq_foldl (fields : List (UInt8 × List Token)) :
    DocumentHits.ofFields fields = (notesOf fields).foldl note ∅ := by
  rw [notesOf, List.foldl_flatMap]
  simp only [List.foldl_map]
  rfl

lemma getElem?_ofFields (fields : List (UInt8 × List Token)) (term : Term) :
    (DocumentHits.ofFields fields)[term]? =
      if itemsFor term (notesOf fields) = [] then none
      else some (addPlaces (itemsFor term (notesOf fields)) Multimap.empty) := by
  rw [ofFields_eq_foldl, getElem?_foldl_note, Std.ExtTreeMap.getElem?_empty, Option.getD_none]

lemma itemsFor_notesOf_ne_nil_iff (term : Term) (fields : List (UInt8 × List Token)) :
    itemsFor term (notesOf fields) ≠ [] ↔
      ∃ field ∈ fields, ∃ token ∈ field.2, Term.ofText token.text = term := by
  simp only [itemsFor, ne_eq, List.map_eq_nil_iff]
  constructor
  · intro h
    obtain ⟨noted, hfiltered⟩ := List.exists_mem_of_ne_nil _ h
    obtain ⟨hmem, hterm⟩ := List.mem_filter.mp hfiltered
    obtain rfl := of_decide_eq_true hterm
    obtain ⟨field, hfield, hnoted⟩ := List.mem_flatMap.mp hmem
    obtain ⟨token, htoken, rfl⟩ := List.mem_map.mp hnoted
    exact ⟨field, hfield, token, htoken, rfl⟩
  · rintro ⟨field, hfield, token, htoken, rfl⟩
    have hnoted : (Term.ofText token.text, field.1, token.position.toUInt8) ∈ notesOf fields :=
      List.mem_flatMap.mpr ⟨field, hfield, List.mem_map.mpr ⟨token, htoken, rfl⟩⟩
    exact List.ne_nil_of_mem (List.mem_filter.mpr ⟨hnoted, decide_eq_true rfl⟩)

/-- The hits for some places: each field that has a place, with all its places. -/
lemma mem_hits_addPlaces {places : List (UInt8 × UInt8)} {hit : FieldHit} :
    hit ∈ FieldPositions.hits (addPlaces places Multimap.empty) ↔
      hit.positions = itemsFor hit.field places ∧ hit.positions ≠ [] := by
  obtain ⟨field, positions⟩ := hit
  have hentry : (⟨field, positions⟩ : FieldHit) ∈
      FieldPositions.hits (addPlaces places Multimap.empty) ↔
        (field, positions) ∈ (addPlaces places Multimap.empty).entries := by
    simp [FieldPositions.hits]
  rw [hentry, Multimap.mem_entries, addPlaces, items?_foldl_add, Multimap.items?_empty, items_empty,
    List.nil_append]
  dsimp only
  by_cases hnil : itemsFor field places = []
  · simp [hnil]
  · rw [if_neg hnil, Option.some.injEq]
    constructor
    · rintro rfl
      exact ⟨rfl, hnil⟩
    · rintro ⟨rfl, -⟩
      rfl

lemma exists_mem_hits_addPlaces {places : List (UInt8 × UInt8)} (h : places ≠ []) :
    ∃ hit ∈ FieldPositions.hits (addPlaces places Multimap.empty), hit.positions ≠ [] := by
  obtain ⟨place, hplace⟩ := List.exists_mem_of_ne_nil _ h
  have hitems : itemsFor place.1 places ≠ [] := itemsFor_ne_nil_iff.mpr (List.mem_map_of_mem hplace)
  exact ⟨⟨place.1, itemsFor place.1 places⟩, mem_hits_addPlaces.mpr ⟨rfl, hitems⟩, hitems⟩

/-- The posting that a document gives to a term. -/
def posting? (term : Term) (ordinal : Ordinal) (fields : List (UInt8 × List Token)) :
    Option Posting :=
  if itemsFor term (notesOf fields) = [] then none
  else
    some (Posting.pack ordinal
      (FieldPositions.hits (addPlaces (itemsFor term (notesOf fields)) Multimap.empty)))

lemma itemsFor_documentPostings (term : Term) (ordinal : Ordinal)
    (fields : List (UInt8 × List Token)) :
    itemsFor term (documentPostings ordinal fields) = (posting? term ordinal fields).toList := by
  have hposting : posting? term ordinal fields =
      (DocumentHits.ofFields fields)[term]?.map fun positions =>
        Posting.pack ordinal (FieldPositions.hits positions) := by
    rw [getElem?_ofFields, posting?]
    split <;> rfl
  apply itemsFor_eq_toList
  · rw [documentPostings, List.pairwise_map]
    refine (DocumentHits.ofFields fields).distinct_keys_toList.imp fun hne he => hne ?_
    rw [he, Std.LawfulEqOrd.compare_eq_iff_eq]
  · intro p
    rw [hposting, Option.map_eq_some_iff, documentPostings]
    simp only [List.mem_map, Prod.exists, Prod.mk.injEq]
    constructor
    · rintro ⟨key, positions, hmem, rfl, hp⟩
      exact ⟨positions, Std.ExtTreeMap.mem_toList_iff_getElem?_eq_some.mp hmem, hp⟩
    · rintro ⟨positions, hget, hp⟩
      exact ⟨term, positions, Std.ExtTreeMap.mem_toList_iff_getElem?_eq_some.mpr hget, rfl, hp⟩

lemma posting?_eq_some {term : Term} {ordinal : Ordinal} {fields : List (UInt8 × List Token)}
    {p : Posting} (h : posting? term ordinal fields = some p) :
    p.ordinal = ordinal ∧ p.payload ≠ [] ∧ payloadFault? p.payload = none := by
  unfold posting? at h
  split at h
  · exact absurd h (by simp)
  · rename_i hplaces
    obtain rfl := Option.some.inj h
    exact ⟨rfl, payload_pack_ne_nil ordinal (exists_mem_hits_addPlaces hplaces),
      payloadFault?_pack ordinal _⟩

lemma posting?_ne_none_iff (term : Term) (ordinal : Ordinal) (fields : List (UInt8 × List Token)) :
    posting? term ordinal fields ≠ none ↔
      ∃ field ∈ fields, ∃ token ∈ field.2, Term.ofText token.text = term := by
  rw [← itemsFor_notesOf_ne_nil_iff, posting?]
  split <;> simp_all

end TextSearch.Proofs
