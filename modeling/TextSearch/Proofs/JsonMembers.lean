import Mathlib.Data.List.Dedup
import Mathlib.Data.List.Induction
import Mathlib.Data.String.Basic
import TextSearch.Json.Value
import TextSearch.Proofs.Multimaps

/-!
# Members of JSON objects

The members of an object stand in the order of their names, each name once. Of several values for one name the last
one stays.
-/

namespace TextSearch.Proofs
open Json

variable {α : Type}

/-- The names are in ascending order, each once. -/
def AscendingMembers (members : List (String × α)) : Prop := members.Pairwise fun a b => a.1 < b.1

section Inserting

variable {name : String} {value : α} {first : String × α} {rest members : List (String × α)}

lemma insertMember_of_lt (h : name < first.1) :
    insertMember name value (first :: rest) = (name, value) :: first :: rest := by
  rw [insertMember, if_neg h.ne, if_pos h]

lemma insertMember_of_eq (h : name = first.1) : insertMember name value (first :: rest) = (name, value) :: rest := by
  rw [insertMember, if_pos h]

lemma insertMember_of_gt (h : first.1 < name) :
    insertMember name value (first :: rest) = first :: insertMember name value rest := by
  rw [insertMember, if_neg h.ne', if_neg (lt_asymm h)]

/-- An inserted member takes the place of those with its name. -/
lemma mem_insertMember_iff (h : AscendingMembers members) {member : String × α} :
    member ∈ insertMember name value members ↔
      member = (name, value) ∨ (member ∈ members ∧ member.1 ≠ name) := by
  induction members with
  | nil => simp [insertMember]
  | cons first rest ih =>
    obtain ⟨hfirst, hrest⟩ := List.pairwise_cons.mp h
    have hlater : ∀ bound ≤ first.1, member ∈ rest → member.1 ≠ bound :=
      fun bound hbound hmem => (lt_of_le_of_lt hbound (hfirst member hmem)).ne'
    rcases lt_trichotomy name first.1 with hlt | heq | hgt
    · have hne : member = first → member.1 ≠ name := by
        rintro rfl
        exact hlt.ne'
      rw [insertMember_of_lt hlt, List.mem_cons, List.mem_cons]
      have hlater := hlater name hlt.le
      tauto
    · have hsame : member = first → member.1 = name := by
        rintro rfl
        exact heq.symm
      rw [insertMember_of_eq heq, List.mem_cons, List.mem_cons]
      have hlater := hlater name heq.le
      tauto
    · have hne : member = first → member.1 ≠ name := by
        rintro rfl
        exact hgt.ne
      rw [insertMember_of_gt hgt, List.mem_cons, ih hrest, List.mem_cons]
      tauto

lemma AscendingMembers.insertMember (h : AscendingMembers members) (name : String) (value : α) :
    AscendingMembers (insertMember name value members) := by
  induction members with
  | nil => exact List.pairwise_singleton _ _
  | cons first rest ih =>
    obtain ⟨hfirst, hrest⟩ := List.pairwise_cons.mp h
    rcases lt_trichotomy name first.1 with hlt | heq | hgt
    · rw [insertMember_of_lt hlt]
      refine List.pairwise_cons.mpr ⟨fun member hmem => ?_, h⟩
      rcases List.mem_cons.mp hmem with rfl | hmem
      · exact hlt
      · exact hlt.trans (hfirst member hmem)
    · rw [insertMember_of_eq heq]
      exact List.pairwise_cons.mpr ⟨heq ▸ hfirst, hrest⟩
    · rw [insertMember_of_gt hgt]
      refine List.pairwise_cons.mpr ⟨fun member hmem => ?_, ih hrest⟩
      rcases (mem_insertMember_iff hrest).mp hmem with rfl | ⟨hmem, -⟩
      · exact hgt
      · exact hfirst member hmem

end Inserting

lemma sortMembers_concat (members : List (String × α)) (member : String × α) :
    sortMembers (members ++ [member]) = insertMember member.1 member.2 (sortMembers members) := by
  unfold sortMembers
  rw [List.foldl_append]
  rfl

lemma ascending_sortMembers (members : List (String × α)) : AscendingMembers (sortMembers members) := by
  induction members using List.reverseRecOn with
  | nil => exact List.Pairwise.nil
  | append_singleton members member ih =>
    rw [sortMembers_concat]
    exact ih.insertMember member.1 member.2

/-- A name keeps the last of its values. -/
lemma mem_sortMembers_iff {members : List (String × α)} {name : String} {value : α} :
    (name, value) ∈ sortMembers members ↔ (itemsFor name members).getLast? = some value := by
  -- from the back, since the last member is the last to be inserted
  induction members using List.reverseRecOn with
  | nil => simp [sortMembers, itemsFor]
  | append_singleton members member ih =>
    rw [sortMembers_concat, mem_insertMember_iff (ascending_sortMembers members), ih, itemsFor_append,
      itemsFor_cons]
    by_cases hname : member.1 = name
    · rw [if_pos hname, List.getLast?_append_cons]
      simp [← hname, itemsFor, Prod.ext_iff, eq_comm]
    · rw [if_neg hname]
      simp [Ne.symm hname, itemsFor, Prod.ext_iff]

lemma AscendingMembers.ext {members others : List (String × α)} (hm : AscendingMembers members)
    (ho : AscendingMembers others) (h : ∀ member, member ∈ members ↔ member ∈ others) : members = others := by
  have hirrefl : Std.Irrefl fun a b : String × α => a.1 < b.1 := ⟨fun a => lt_irrefl a.1⟩
  have hantisymm : Std.Antisymm fun a b : String × α => a.1 < b.1 :=
    ⟨fun a b hab hba => absurd hba (lt_asymm hab)⟩
  exact hm.eq_of_mem_iff ho h

lemma AscendingMembers.nodup_names {members : List (String × α)} (h : AscendingMembers members) :
    (members.map Prod.fst).Nodup :=
  List.pairwise_map.mpr (h.imp fun hlt => hlt.ne)

lemma mem_of_mem_itemsFor {members : List (String × α)} {name : String} {value : α}
    (h : value ∈ itemsFor name members) : (name, value) ∈ members := by
  simp only [itemsFor, List.mem_map, List.mem_filter, decide_eq_true_eq, Prod.exists] at h
  obtain ⟨_, _, ⟨hmem, rfl⟩, rfl⟩ := h
  exact hmem

lemma itemsFor_map {β : Type} (name : String) (members : List (String × α)) (f : α → β) :
    itemsFor name (members.map fun member => (member.1, f member.2)) = (itemsFor name members).map f := by
  simp only [itemsFor, List.filter_map, List.map_map, Function.comp_def]

/-- Where no name stands twice, each member is the only one with its name. -/
lemma itemsFor_eq_singleton {members : List (String × α)} (h : (members.map Prod.fst).Nodup) {name : String}
    {value : α} (hmem : (name, value) ∈ members) : itemsFor name members = [value] := by
  induction members with
  | nil => cases hmem
  | cons first rest ih =>
    obtain ⟨hfirst, hrest⟩ := List.nodup_cons.mp h
    rw [itemsFor_cons]
    rcases List.mem_cons.mp hmem with rfl | hmem
    · have hnone : itemsFor name rest = [] := by
        by_contra hne
        exact hfirst (itemsFor_ne_nil_iff.mp hne)
      rw [if_pos rfl, hnone]
    · have hne : first.1 ≠ name := fun heq => hfirst (heq ▸ List.mem_map_of_mem hmem)
      rw [if_neg hne, ih hrest hmem]

lemma getLast?_itemsFor_eq_some_iff {members : List (String × α)} (h : (members.map Prod.fst).Nodup) {name : String}
    {value : α} : (itemsFor name members).getLast? = some value ↔ (name, value) ∈ members := by
  refine ⟨fun hlast => mem_of_mem_itemsFor (List.mem_of_getLast? hlast), fun hmem => ?_⟩
  rw [itemsFor_eq_singleton h hmem, List.getLast?_singleton]

lemma AscendingMembers.sortMembers_eq {members : List (String × α)} (h : AscendingMembers members) :
    sortMembers members = members :=
  (ascending_sortMembers members).ext h fun member => by
    rw [mem_sortMembers_iff, getLast?_itemsFor_eq_some_iff h.nodup_names]

lemma map_fst_sortMembers_perm (members : List (String × α)) :
    ((sortMembers members).map Prod.fst).Perm (members.map Prod.fst).dedup := by
  refine (List.perm_ext_iff_of_nodup (ascending_sortMembers members).nodup_names (List.nodup_dedup _)).mpr
    fun name => ?_
  rw [List.mem_dedup]
  constructor
  · intro h
    obtain ⟨⟨_, value⟩, hmem, rfl⟩ := List.mem_map.mp h
    have hlast := mem_sortMembers_iff.mp hmem
    exact List.mem_map_of_mem (mem_of_mem_itemsFor (List.mem_of_getLast? hlast))
  · intro h
    have hitems : itemsFor name members ≠ [] := itemsFor_ne_nil_iff.mpr h
    have hlast := List.getLast?_eq_some_getLast hitems
    exact List.mem_map_of_mem (mem_sortMembers_iff.mpr hlast)

/-- Members are lost exactly when a name stands twice. -/
lemma length_sortMembers_eq_iff (members : List (String × α)) :
    (sortMembers members).length = members.length ↔ (members.map Prod.fst).Nodup := by
  have hlength := (map_fst_sortMembers_perm members).length_eq
  have hnames : (members.map Prod.fst).length = members.length := List.length_map _
  rw [List.length_map] at hlength
  rw [hlength, ← List.dedup_eq_self, ← hnames]
  exact ⟨(List.dedup_sublist _).eq_of_length, fun h => by rw [h]⟩

end TextSearch.Proofs
