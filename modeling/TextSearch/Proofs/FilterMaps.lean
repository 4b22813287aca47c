import Mathlib.Data.String.Basic
import TextSearch.Proofs.Multimaps
import TextSearch.Query.Filter

/-!
# Filters as maps

A filter that was made by allowing values has its names in ascending order. It is determined by what it
allows for each name: all that was given for the name, in order.
-/

namespace TextSearch.Proofs

variable {f g : Filter}

/-- The names are in ascending order, each once. -/
def AscendingNames (f : Filter) : Prop := f.entries.Pairwise fun a b => a.1 < b.1

instance (f : Filter) : Decidable (AscendingNames f) := List.instDecidablePairwise f.entries

lemma get?_cons (entry : String × List String) (rest : List (String × List String)) (name : String) :
    (⟨entry :: rest⟩ : Filter).get? name =
      if entry.1 = name then some entry.2 else (⟨rest⟩ : Filter).get? name := by
  unfold Filter.get?
  by_cases h : entry.1 = name <;> simp [h]

lemma mem_entries_of_get? {name : String} {values : List String} (h : f.get? name = some values) :
    (name, values) ∈ f.entries := by
  unfold Filter.get? at h
  obtain ⟨entry, hfind, rfl⟩ := Option.map_eq_some_iff.mp h
  have hname := List.find?_some hfind
  simp only [decide_eq_true_eq] at hname
  rw [← hname]
  exact List.mem_of_find?_eq_some hfind

lemma AscendingNames.mem_entries_iff (hf : AscendingNames f) {name : String} {values : List String} :
    (name, values) ∈ f.entries ↔ f.get? name = some values := by
  refine ⟨fun h => ?_, mem_entries_of_get?⟩
  obtain ⟨entries⟩ := f
  induction entries with
  | nil => exact absurd h List.not_mem_nil
  | cons entry rest ih =>
    obtain ⟨hfirst, hrest⟩ := List.pairwise_cons.mp hf
    rw [get?_cons]
    rcases List.mem_cons.mp h with rfl | hlater
    · exact if_pos rfl
    · have hne : entry.1 ≠ name := (hfirst _ hlater).ne
      rw [if_neg hne]
      exact ih hrest hlater

lemma get?_eq_none_of_lt {entries : List (String × List String)} {name : String}
    (h : ∀ entry ∈ entries, name < entry.1) : (⟨entries⟩ : Filter).get? name = none := by
  cases hget : (⟨entries⟩ : Filter).get? name with
  | none => rfl
  | some values => exact absurd (h _ (mem_entries_of_get? hget)) (lt_irrefl name)

/-- Filters that allow the same are the same. -/
lemma AscendingNames.ext (hf : AscendingNames f) (hg : AscendingNames g)
    (h : ∀ name, f.get? name = g.get? name) : f = g := by
  have hirrefl : Std.Irrefl fun a b : String × List String => a.1 < b.1 := ⟨fun a => lt_irrefl a.1⟩
  have hantisymm : Std.Antisymm fun a b : String × List String => a.1 < b.1 :=
    ⟨fun a b hab hba => absurd hba (lt_asymm hab)⟩
  have hentries : f.entries = g.entries := hf.eq_of_mem_iff hg fun entry => by
    rw [hf.mem_entries_iff, hg.mem_entries_iff, h]
  exact congrArg Filter.mk hentries

/-! ### Allowing values -/

section Allowing

variable {name : String} {first : String × List String} {rest : List (String × List String)}

lemma insertAllowed_of_lt (h : name < first.1) (values : List String) :
    insertAllowed name values (first :: rest) = (name, values) :: first :: rest := by
  rw [insertAllowed, if_neg h.ne, if_pos h]

lemma insertAllowed_of_gt (h : first.1 < name) (values : List String) :
    insertAllowed name values (first :: rest) = first :: insertAllowed name values rest := by
  rw [insertAllowed, if_neg h.ne', if_neg (lt_asymm h)]

lemma insertAllowed_of_eq (first : String × List String) (values : List String) :
    insertAllowed first.1 values (first :: rest) = (first.1, first.2 ++ values) :: rest := by
  rw [insertAllowed, if_pos rfl]

end Allowing

lemma name_of_mem_insertAllowed {name : String} {values : List String}
    {entries : List (String × List String)} {entry : String × List String}
    (h : entry ∈ insertAllowed name values entries) : entry.1 = name ∨ entry ∈ entries := by
  induction entries with
  | nil => exact .inl (List.mem_singleton.mp h ▸ rfl)
  | cons first rest ih =>
    rcases lt_trichotomy name first.1 with hlt | rfl | hgt
    · rw [insertAllowed_of_lt hlt] at h
      rcases List.mem_cons.mp h with rfl | hold
      · exact .inl rfl
      · exact .inr hold
    · rw [insertAllowed_of_eq] at h
      rcases List.mem_cons.mp h with rfl | hold
      · exact .inl rfl
      · exact .inr (List.mem_cons_of_mem _ hold)
    · rw [insertAllowed_of_gt hgt] at h
      rcases List.mem_cons.mp h with rfl | hlater
      · exact .inr List.mem_cons_self
      · exact (ih hlater).imp_right (List.mem_cons_of_mem _)

lemma AscendingNames.allow (hf : AscendingNames f) (name : String) (values : List String) :
    AscendingNames (f.allow name values) := by
  obtain ⟨entries⟩ := f
  unfold AscendingNames Filter.allow
  dsimp only
  induction entries with
  | nil => exact List.pairwise_singleton _ _
  | cons first rest ih =>
    obtain ⟨hfirst, hrest⟩ := List.pairwise_cons.mp hf
    rcases lt_trichotomy name first.1 with hlt | rfl | hgt
    · rw [insertAllowed_of_lt hlt]
      refine List.pairwise_cons.mpr ⟨List.forall_mem_cons.mpr ⟨hlt, fun old hold => ?_⟩, hf⟩
      exact hlt.trans (hfirst old hold)
    · rw [insertAllowed_of_eq]
      exact List.pairwise_cons.mpr ⟨hfirst, hrest⟩
    · rw [insertAllowed_of_gt hgt]
      refine List.pairwise_cons.mpr ⟨fun entry hentry => ?_, ih hrest⟩
      rcases name_of_mem_insertAllowed hentry with rfl | hold
      · exact hgt
      · exact hfirst entry hold

lemma get?_allow (hf : AscendingNames f) (name key : String) (values : List String) :
    (f.allow name values).get? key =
      if name = key then some ((f.get? key).getD [] ++ values) else f.get? key := by
  obtain ⟨entries⟩ := f
  unfold Filter.allow
  dsimp only
  induction entries with
  | nil =>
    rw [insertAllowed, get?_cons]
    rfl
  | cons first rest ih =>
    obtain ⟨hfirst, hrest⟩ := List.pairwise_cons.mp hf
    rcases lt_trichotomy name first.1 with hlt | rfl | hgt
    · have hnone : (⟨first :: rest⟩ : Filter).get? name = none :=
        get?_eq_none_of_lt (List.forall_mem_cons.mpr ⟨hlt, fun old hold => hlt.trans (hfirst old hold)⟩)
      rw [insertAllowed_of_lt hlt, get?_cons]
      by_cases hkey : name = key
      · rw [if_pos hkey, if_pos hkey, ← hkey, hnone]
        rfl
      · rw [if_neg hkey, if_neg hkey]
    · rw [insertAllowed_of_eq, get?_cons, get?_cons]
      by_cases hkey : first.1 = key <;> simp [hkey]
    · rw [insertAllowed_of_gt hgt, get?_cons, get?_cons, ih hrest]
      by_cases hkey : first.1 = key
      · have hother : name ≠ key := hkey ▸ hgt.ne'
        rw [if_pos hkey, if_pos hkey, if_neg hother]
      · rw [if_neg hkey, if_neg hkey]

/-- What values are allowed after some were allowed. -/
lemma get?_foldl_allow (hf : AscendingNames f) (given : List (String × List String)) (key : String) :
    (given.foldl (fun f entry => f.allow entry.1 entry.2) f).get? key =
      if itemsFor key given = [] then f.get? key
      else some ((f.get? key).getD [] ++ (itemsFor key given).flatten) := by
  induction given generalizing f with
  | nil => rfl
  | cons entry given ih =>
    rw [List.foldl_cons, ih (hf.allow entry.1 entry.2), get?_allow hf, itemsFor_cons]
    by_cases h : entry.1 = key
    · by_cases hrest : itemsFor key given = [] <;> simp [h, hrest]
    · simp [h]

lemma ascendingNames_foldl_allow (hf : AscendingNames f) (given : List (String × List String)) :
    AscendingNames (given.foldl (fun f entry => f.allow entry.1 entry.2) f) := by
  induction given generalizing f with
  | nil => exact hf
  | cons entry given ih => exact ih (hf.allow entry.1 entry.2)

end TextSearch.Proofs
