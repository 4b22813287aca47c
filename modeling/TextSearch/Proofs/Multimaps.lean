import Mathlib.Data.List.Nodup
import Mathlib.Data.List.Sort
import TextSearch.Multimap

/-!
# Items of a multimap

What the items of one key are after others were added, and how the entries list them.
-/

namespace TextSearch.Proofs

variable {κ α : Type} [Ord κ] [Std.TransOrd κ] [Std.LawfulEqOrd κ] [DecidableEq κ]

omit [Std.LawfulEqOrd κ] [DecidableEq κ] in
@[simp] lemma items_empty (key : κ) : (Multimap.empty : Multimap κ α).items key = [] := by
  simp [Multimap.items]

lemma items_addAll (m : Multimap κ α) (key k : κ) (items : List α) :
    (m.addAll key items).items k = if key = k then m.items k ++ items else m.items k := by
  unfold Multimap.items
  rw [Multimap.items?_addAll]
  by_cases h : key = k
  · subst h
    simp [Multimap.items]
  · simp [h]

omit [DecidableEq κ] in
/-- The entries of a multimap are its keys with their items. -/
lemma forall_mem_entries_iff {m : Multimap κ α} {P : List α → Prop} (hnil : P []) :
    (∀ entry ∈ m.entries, P entry.2) ↔ ∀ key, P (m.items key) := by
  constructor
  · intro h key
    unfold Multimap.items
    cases hk : m.items? key with
    | none => exact hnil
    | some items => exact h (key, items) (Multimap.mem_entries.mpr hk)
  · rintro h ⟨key, items⟩ hmem
    have hk := Multimap.mem_entries.mp hmem
    have hp := h key
    rw [Multimap.items, hk] at hp
    exact hp

/-- What some pairs give to a key, in their order. -/
def itemsFor (key : κ) (pairs : List (κ × α)) : List α :=
  (pairs.filter fun pair => pair.1 = key).map Prod.snd

omit [Ord κ] [Std.TransOrd κ] [Std.LawfulEqOrd κ] in
lemma itemsFor_cons (key : κ) (pair : κ × α) (pairs : List (κ × α)) :
    itemsFor key (pair :: pairs) =
      if pair.1 = key then pair.2 :: itemsFor key pairs else itemsFor key pairs := by
  unfold itemsFor
  by_cases h : pair.1 = key <;> simp [h]

omit [Ord κ] [Std.TransOrd κ] [Std.LawfulEqOrd κ] in
lemma itemsFor_append (key : κ) (pairs others : List (κ × α)) :
    itemsFor key (pairs ++ others) = itemsFor key pairs ++ itemsFor key others := by
  rw [itemsFor, List.filter_append, List.map_append]
  rfl

omit [Ord κ] [Std.TransOrd κ] [Std.LawfulEqOrd κ] in
lemma itemsFor_ne_nil_iff {key : κ} {pairs : List (κ × α)} :
    itemsFor key pairs ≠ [] ↔ key ∈ pairs.map Prod.fst := by
  simp [itemsFor]

omit [Ord κ] [Std.TransOrd κ] [Std.LawfulEqOrd κ] in
lemma itemsFor_map_snd {β : Type} (f : α → β) (key : κ) (pairs : List (κ × α)) :
    itemsFor key (pairs.map fun pair => (pair.1, f pair.2)) = (itemsFor key pairs).map f := by
  simp [itemsFor, List.filter_map, Function.comp_def]

omit [Ord κ] [Std.TransOrd κ] [Std.LawfulEqOrd κ] in
/-- Items that are made from the items of a key. -/
lemma itemsFor_flatMap {β : Type} (f : α → List β) (key : κ) (pairs : List (κ × α)) :
    itemsFor key (pairs.flatMap fun pair => (f pair.2).map fun item => (pair.1, item)) =
      (itemsFor key pairs).flatMap f := by
  induction pairs with
  | nil => rfl
  | cons pair pairs ih =>
    have hpair : itemsFor key ((f pair.2).map fun item => (pair.1, item)) =
        if pair.1 = key then f pair.2 else [] := by
      by_cases h : pair.1 = key <;> simp [itemsFor, List.filter_map, Function.comp_def, h]
    rw [List.flatMap_cons, itemsFor_append, hpair, ih, itemsFor_cons]
    by_cases h : pair.1 = key <;> simp [h]

/-- What the items of a key are after some batches were added. -/
lemma items?_foldl_addAll (batches : List (κ × List α)) (m : Multimap κ α) (key : κ) :
    (batches.foldl (fun m batch => m.addAll batch.1 batch.2) m).items? key =
      if itemsFor key batches = [] then m.items? key
      else some (m.items key ++ (itemsFor key batches).flatten) := by
  induction batches generalizing m with
  | nil => rfl
  | cons batch batches ih =>
    rw [List.foldl_cons, ih, Multimap.items?_addAll, items_addAll, itemsFor_cons]
    by_cases h : batch.1 = key
    · subst h
      by_cases hrest : itemsFor batch.1 batches = [] <;> simp [hrest]
    · simp [h]

lemma items?_foldl_add (pairs : List (κ × α)) (m : Multimap κ α) (key : κ) :
    (pairs.foldl (fun m pair => m.add pair.1 pair.2) m).items? key =
      if itemsFor key pairs = [] then m.items? key else some (m.items key ++ itemsFor key pairs) := by
  have hbatches : pairs.foldl (fun m pair => m.add pair.1 pair.2) m =
      (pairs.map fun pair => (pair.1, [pair.2])).foldl (fun m batch => m.addAll batch.1 batch.2) m := by
    rw [List.foldl_map]
    rfl
  rw [hbatches, items?_foldl_addAll, itemsFor_map_snd fun item => [item], ← List.flatMap_def,
    List.flatMap_singleton']
  simp only [List.map_eq_nil_iff]

omit [Ord κ] [Std.TransOrd κ] [Std.LawfulEqOrd κ] in
/-- Pairs with different keys give a key one item at most. -/
lemma itemsFor_eq_toList {pairs : List (κ × α)} {key : κ} {item : Option α}
    (h : pairs.Pairwise fun a b => a.1 ≠ b.1)
    (hitem : ∀ x, (key, x) ∈ pairs ↔ item = some x) : itemsFor key pairs = item.toList := by
  induction pairs with
  | nil =>
    cases item with
    | none => rfl
    | some x => exact absurd ((hitem x).mpr rfl) List.not_mem_nil
  | cons pair pairs ih =>
    obtain ⟨hne, hrest⟩ := List.pairwise_cons.mp h
    rw [itemsFor_cons]
    by_cases hk : pair.1 = key
    · subst hk
      have hnil : itemsFor pair.1 pairs = [] := by
        simp only [itemsFor, List.map_eq_nil_iff, List.filter_eq_nil_iff, decide_eq_true_eq]
        exact fun other hother he => hne other hother he.symm
      have hx : item = some pair.2 := (hitem pair.2).mp List.mem_cons_self
      rw [if_pos rfl, hnil, hx]
      rfl
    · rw [if_neg hk]
      refine ih hrest fun x => ?_
      rw [← hitem x, List.mem_cons]
      have hother : (key, x) ≠ pair := fun he => hk (by rw [← he])
      simp [hother]

omit [DecidableEq κ] in
lemma pairwise_ne_entries {batches : List (κ × List α)} {m : Multimap κ α}
    (h : batches.Perm m.entries) : batches.Pairwise fun a b => a.1 ≠ b.1 := by
  refine (h.symm.pairwise_iff fun hne => hne.symm).mp (m.ascending_entries.imp ?_)
  intro a b hlt he
  rw [Std.LawfulEqOrd.compare_eq_iff_eq.mpr he] at hlt
  exact absurd hlt (by decide)

omit [DecidableEq κ] in
lemma nodup_entries (m : Multimap κ α) : m.entries.Nodup :=
  (pairwise_ne_entries (List.Perm.refl m.entries)).imp fun hne he => hne (congrArg Prod.fst he)

lemma itemsFor_entries (m : Multimap κ α) (key : κ) :
    itemsFor key m.entries = (m.items? key).toList :=
  itemsFor_eq_toList (pairwise_ne_entries (List.Perm.refl _)) fun _ => Multimap.mem_entries

/-- Only the entry of the key changes. -/
lemma entries_addAll (m : Multimap κ α) (key : κ) (items : List α) :
    (m.addAll key items).entries.Perm
      ((key, m.items key ++ items) :: m.entries.filter fun entry => entry.1 ≠ key) := by
  have hnodup : ((key, m.items key ++ items) :: m.entries.filter fun entry => entry.1 ≠ key).Nodup :=
    List.nodup_cons.mpr ⟨by simp, (nodup_entries m).filter _⟩
  refine (List.perm_ext_iff_of_nodup (nodup_entries _) hnodup).mpr fun entry => ?_
  obtain ⟨k, xs⟩ := entry
  rw [Multimap.mem_entries, Multimap.items?_addAll, List.mem_cons, List.mem_filter, Multimap.mem_entries]
  by_cases h : key = k
  · subst h
    simp [eq_comm]
  · simp [h, Ne.symm h]

lemma size_addAll_le (m : Multimap κ α) (key : κ) (items : List α) :
    (m.addAll key items).size ≤ m.size + 1 := by
  rw [← Multimap.length_entries, ← Multimap.length_entries, (entries_addAll m key items).length_eq,
    List.length_cons]
  exact Nat.succ_le_succ (List.length_filter_le _ _)

lemma itemCount_addAll (m : Multimap κ α) (key : κ) (items : List α) :
    (m.addAll key items).itemCount = m.itemCount + items.length := by
  have hkey : ((m.entries.filter fun entry => entry.1 = key).flatMap Prod.snd).length =
      (m.items key).length := by
    have hitems := congrArg List.flatten (itemsFor_entries m key)
    rw [itemsFor, ← List.flatMap_def] at hitems
    rw [hitems, Multimap.items]
    cases m.items? key <;> simp
  have hsplit := ((m.entries.filter_append_perm fun entry => entry.1 = key).flatMap_right Prod.snd).length_eq
  rw [List.flatMap_append, List.length_append, hkey] at hsplit
  have hadded := ((entries_addAll m key items).flatMap_right Prod.snd).length_eq
  rw [List.flatMap_cons, List.length_append, List.length_append] at hadded
  simp only [← decide_not, ← ne_eq] at hsplit
  unfold Multimap.itemCount
  omega

/-- Batches for different keys are the entries of what they make. -/
lemma mem_entries_foldl_addAll {batches : List (κ × List α)}
    (h : batches.Pairwise fun a b => a.1 ≠ b.1) (entry : κ × List α) :
    entry ∈ (batches.foldl (fun m batch => m.addAll batch.1 batch.2) Multimap.empty).entries ↔
      entry ∈ batches := by
  obtain ⟨key, items⟩ := entry
  rw [Multimap.mem_entries, items?_foldl_addAll, Multimap.items?_empty, items_empty, List.nil_append]
  have hunique : ∀ {xs ys : List α}, (key, xs) ∈ batches → (key, ys) ∈ batches → xs = ys := by
    intro xs ys hx hy
    have hnodup : (batches.map Prod.fst).Nodup := List.pairwise_map.mpr h
    exact congrArg Prod.snd (List.inj_on_of_nodup_map hnodup hx hy rfl)
  by_cases hkey : key ∈ batches.map Prod.fst
  · obtain ⟨xs, hmem⟩ : ∃ xs, (key, xs) ∈ batches := by
      obtain ⟨⟨_, xs⟩, hmem, rfl⟩ := List.mem_map.mp hkey
      exact ⟨xs, hmem⟩
    have hone : itemsFor key batches = (some xs).toList := itemsFor_eq_toList h fun ys =>
      ⟨fun hys => congrArg some (hunique hmem hys), fun he => Option.some.inj he ▸ hmem⟩
    rw [hone, Option.toList_some, if_neg (List.cons_ne_nil _ _), List.flatten_singleton,
      Option.some.injEq]
    exact ⟨fun he => he ▸ hmem, fun hitems => hunique hmem hitems⟩
  · have hnone : itemsFor key batches = [] := by
      by_contra hne
      exact hkey (itemsFor_ne_nil_iff.mp hne)
    rw [if_pos hnone]
    exact ⟨fun he => absurd he (by simp), fun hmem => absurd (List.mem_map_of_mem hmem) hkey⟩

/-- The entries of a multimap, in whatever order they are added, make it again. -/
lemma foldl_addAll_entries {batches : List (κ × List α)} {m : Multimap κ α}
    (h : batches.Perm m.entries) :
    batches.foldl (fun m batch => m.addAll batch.1 batch.2) Multimap.empty = m := by
  refine Multimap.ext_items? fun key => Option.ext fun items => ?_
  rw [← Multimap.mem_entries, ← Multimap.mem_entries,
    mem_entries_foldl_addAll (pairwise_ne_entries h), h.mem_iff]

/-- A call that gives items to a key. -/
inductive Addition (κ α : Type) where
  | one (key : κ) (item : α)
  | many (key : κ) (items : List α)

def Addition.run (m : Multimap κ α) : Addition κ α → Multimap κ α
  | .one key item => m.add key item
  | .many key items => m.addAll key items

/-- A multimap after some calls. -/
def filled (calls : List (Addition κ α)) : Multimap κ α := calls.foldl Addition.run Multimap.empty

omit [DecidableEq κ] in
/-- The entries are the only list of their kind that ascends strictly. -/
lemma entries_eq_of_mem_iff {m : Multimap κ α} {listed : List (κ × List α)}
    (h : listed.Pairwise fun a b => compare a.1 b.1 = .lt) (hmem : ∀ entry, entry ∈ m.entries ↔ entry ∈ listed) :
    m.entries = listed := by
  have hirrefl : Std.Irrefl fun a b : κ × List α => compare a.1 b.1 = .lt :=
    ⟨fun a => by rw [Std.compare_self]; decide⟩
  have hantisymm : Std.Antisymm fun a b : κ × List α => compare a.1 b.1 = .lt := by
    refine ⟨fun a b hab hba => ?_⟩
    rw [Std.OrientedOrd.eq_swap, hba] at hab
    exact absurd hab (by decide)
  exact m.ascending_entries.eq_of_mem_iff h hmem

omit [DecidableEq κ] in
/-- Sorting finds the entries again, in whatever order they are listed. -/
lemma mergeSort_eq_entries {m : Multimap κ α} {listed : List (κ × List α)} (h : listed.Perm m.entries) :
    listed.mergeSort (fun a b => (compare a.1 b.1).isLE) = m.entries := by
  have hperm := (listed.mergeSort_perm fun a b => (compare a.1 b.1).isLE).trans h
  have hsorted : (listed.mergeSort fun a b => (compare a.1 b.1).isLE).Pairwise
      fun a b => (compare a.1 b.1).isLE := by
    apply List.pairwise_mergeSort
    · exact fun a b c => Std.TransOrd.isLE_trans
    · intro a b
      have hswap : compare b.1 a.1 = (compare a.1 b.1).swap := Std.OrientedOrd.eq_swap
      rw [hswap]
      cases compare a.1 b.1 <;> rfl
  -- different keys do not compare equal
  have hstrict : (listed.mergeSort fun a b => (compare a.1 b.1).isLE).Pairwise
      fun a b => compare a.1 b.1 = .lt := by
    refine (hsorted.and (pairwise_ne_entries hperm)).imp fun {a b} hab => ?_
    have hne : compare a.1 b.1 ≠ .eq := fun he => hab.2 (Std.LawfulEqOrd.eq_of_compare he)
    exact (Ordering.isLE_iff_eq_lt_or_eq_eq.mp hab.1).resolve_right hne
  exact (entries_eq_of_mem_iff hstrict fun entry => hperm.symm.mem_iff).symm

end TextSearch.Proofs
