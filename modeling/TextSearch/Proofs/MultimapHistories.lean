import Mathlib.Data.List.Induction
import Std.Data.HashMap
import TextSearch.Proofs.Multimaps
import TextSearch.Term

/-!
# Histories of a multimap

After any calls a multimap has all that was given for each key, in the order of the calls, and nothing else. A hash
table that makes the same calls has the same lists, whatever the hash of the keys is: keys with one hash share a
bucket, and equality tells them apart.
-/

namespace TextSearch.Proofs

/-! ### What some calls give -/

section Given

variable {κ α : Type}

def Addition.key : Addition κ α → κ
  | .one key _ => key
  | .many key _ => key

def Addition.items : Addition κ α → List α
  | .one _ item => [item]
  | .many _ items => items

variable [DecidableEq κ]

/-- The calls for one key, in their order. -/
def callsFor (key : κ) (calls : List (Addition κ α)) : List (Addition κ α) :=
  calls.filter fun call => call.key = key

/-- All that is given for one key, in the order of the calls. -/
def itemsGiven (key : κ) (calls : List (Addition κ α)) : List α := (callsFor key calls).flatMap Addition.items

lemma callsFor_append (key : κ) (calls others : List (Addition κ α)) :
    callsFor key (calls ++ others) = callsFor key calls ++ callsFor key others := List.filter_append _ _

lemma callsFor_singleton (key : κ) (call : Addition κ α) :
    callsFor key [call] = if call.key = key then [call] else [] := by
  by_cases h : call.key = key <;> simp [callsFor, h]

lemma itemsFor_batches (key : κ) (calls : List (Addition κ α)) :
    itemsFor key (calls.map fun call => (call.key, call.items)) = (callsFor key calls).map Addition.items := by
  unfold itemsFor callsFor
  rw [List.filter_map, List.map_map]
  rfl

lemma callsFor_eq_nil_iff {key : κ} {calls : List (Addition κ α)} :
    callsFor key calls = [] ↔ key ∉ calls.map Addition.key := by
  simp [callsFor]

lemma itemsGiven_next (call : Addition κ α) (calls : List (Addition κ α)) :
    itemsGiven call.key (calls ++ [call]) = itemsGiven call.key calls ++ call.items := by
  unfold itemsGiven
  rw [callsFor_append, callsFor_singleton, if_pos rfl, List.flatMap_append, List.flatMap_singleton]

end Given

/-! ### The multimap -/

section Multimaps

variable {κ α : Type} [Ord κ] [Std.TransOrd κ]

/-- Makes a call, which tells how many items its key has then. -/
def Addition.call (m : Multimap κ α) : Addition κ α → Multimap κ α × Nat
  | .one key item => m.extend key [item]
  | .many key items => m.extend key items

lemma run_eq_addAll (m : Multimap κ α) (call : Addition κ α) : call.run m = m.addAll call.key call.items := by
  cases call <;> rfl

lemma table_call (m : Multimap κ α) (call : Addition κ α) : (call.call m).1 = call.run m := by
  cases call <;> rfl

lemma told_call (m : Multimap κ α) (call : Addition κ α) :
    (call.call m).2 = ((call.run m).items call.key).length := by
  cases call <;> rfl

lemma filled_next (calls : List (Addition κ α)) (call : Addition κ α) :
    filled (calls ++ [call]) = call.run (filled calls) := List.foldl_concat _ _ _ _

variable [Std.LawfulEqOrd κ] [DecidableEq κ]

lemma items?_run (m : Multimap κ α) (call : Addition κ α) (key : κ) :
    (call.run m).items? key = if call.key = key then some (m.items call.key ++ call.items) else m.items? key := by
  rw [run_eq_addAll, Multimap.items?_addAll]

/-- The table as a map: a key that was never used has no list, the others have what they were given. -/
lemma items?_filled (calls : List (Addition κ α)) (key : κ) :
    (filled calls).items? key = if callsFor key calls = [] then none else some (itemsGiven key calls) := by
  have hbatches : filled calls = (calls.map fun call => (call.key, call.items)).foldl
      (fun m batch => m.addAll batch.1 batch.2) Multimap.empty := by
    rw [List.foldl_map, filled]
    congr 1
    funext m call
    exact run_eq_addAll m call
  rw [hbatches, items?_foldl_addAll, itemsFor_batches, items_empty, Multimap.items?_empty, List.nil_append, itemsGiven,
    List.flatMap_def]
  simp only [List.map_eq_nil_iff]

lemma items_filled (calls : List (Addition κ α)) (key : κ) : (filled calls).items key = itemsGiven key calls := by
  rw [Multimap.items, items?_filled]
  by_cases h : callsFor key calls = [] <;> simp [itemsGiven, h]

lemma contains_filled_iff {calls : List (Addition κ α)} {key : κ} :
    (filled calls).contains key = true ↔ key ∈ calls.map Addition.key := by
  rw [Multimap.contains, items?_filled, ← not_iff_not, ← callsFor_eq_nil_iff]
  by_cases h : callsFor key calls = [] <;> simp [h]

omit [DecidableEq κ] in
lemma mem_keys_iff_contains {m : Multimap κ α} {key : κ} : key ∈ m.keys ↔ m.contains key = true := by
  unfold Multimap.keys Multimap.contains Multimap.items?
  rw [Std.ExtTreeMap.mem_keys, Std.ExtTreeMap.mem_iff_isSome_getElem?, Option.isSome_map]

omit [Std.LawfulEqOrd κ] [DecidableEq κ] in
lemma map_fst_entries (m : Multimap κ α) : m.entries.map Prod.fst = m.keys := by
  unfold Multimap.entries Multimap.keys
  rw [List.map_map, ← Std.ExtTreeMap.map_fst_toList_eq_keys]
  rfl

omit [DecidableEq κ] in
/-- The entries are the keys with their items. -/
lemma entries_eq_map_keys (m : Multimap κ α) : m.entries = m.keys.map fun key => (key, m.items key) := by
  have hentry : ∀ entry ∈ m.entries, (entry.1, m.items entry.1) = entry := by
    rintro ⟨key, items⟩ hmem
    rw [Multimap.items, Multimap.mem_entries.mp hmem]
    rfl
  rw [← map_fst_entries, List.map_map]
  exact ((List.map_congr_left hentry).trans (List.map_id _)).symm

lemma itemCount_filled (calls : List (Addition κ α)) :
    (filled calls).itemCount = (calls.flatMap Addition.items).length := by
  induction calls using List.reverseRecOn with
  | nil => rfl
  | append_singleton calls call ih =>
    rw [filled_next, run_eq_addAll, itemCount_addAll, ih, List.flatMap_append, List.length_append,
      List.flatMap_singleton]

omit [Std.LawfulEqOrd κ] [DecidableEq κ] in
lemma size_eq_length_keys (m : Multimap κ α) : m.size = m.keys.length := Std.ExtTreeMap.length_keys.symm

omit [Std.LawfulEqOrd κ] [DecidableEq κ] in
lemma isEmpty_iff_keys {m : Multimap κ α} : m.isEmpty = true ↔ m.keys = [] := by
  rw [← List.length_eq_zero_iff, ← size_eq_length_keys, Multimap.isEmpty, Std.ExtTreeMap.isEmpty_eq_size_beq_zero,
    beq_iff_eq]
  rfl

/-- What can be asked of a multimap tells the lists that some calls have made. -/
structure KeepsLists (calls : List (Addition κ α)) (m : Multimap κ α) : Prop where
  items : ∀ key, m.items key = itemsGiven key calls
  contains : ∀ key, m.contains key = true ↔ key ∈ calls.map Addition.key
  mem_keys : ∀ key, key ∈ m.keys ↔ key ∈ calls.map Addition.key
  keys_nodup : m.keys.Nodup
  size : m.size = m.keys.length
  isEmpty : m.isEmpty = true ↔ calls = []
  entries : m.entries = m.keys.map fun key => (key, m.items key)
  itemCount : m.itemCount = (calls.flatMap Addition.items).length

lemma keepsLists_filled (calls : List (Addition κ α)) : KeepsLists calls (filled calls) := by
  have hkeys : ∀ key, key ∈ (filled calls).keys ↔ key ∈ calls.map Addition.key := fun key =>
    mem_keys_iff_contains.trans contains_filled_iff
  have hempty : (filled calls).isEmpty = true ↔ calls = [] := by
    rw [isEmpty_iff_keys, List.eq_nil_iff_forall_not_mem]
    simp only [hkeys]
    rw [← List.eq_nil_iff_forall_not_mem, List.map_eq_nil_iff]
  exact ⟨items_filled calls, fun key => contains_filled_iff, hkeys, Std.ExtTreeMap.nodup_keys, size_eq_length_keys _,
    hempty, entries_eq_map_keys _, itemCount_filled calls⟩

/-- A key sees its own calls only. -/
lemma filled_eq_of_callsFor {calls others : List (Addition κ α)}
    (h : ∀ key, callsFor key others = callsFor key calls) : filled others = filled calls := by
  refine Multimap.ext_items? fun key => ?_
  rw [items?_filled, items?_filled, itemsGiven, itemsGiven, h key]

/-- The order of two calls does not matter, neither for the table nor for what they tell. -/
structure Commutes (m : Multimap κ α) (a b : Addition κ α) : Prop where
  table : (b.call (a.call m).1).1 = (a.call (b.call m).1).1
  later : (b.call (a.call m).1).2 = (b.call m).2
  earlier : (a.call (b.call m).1).2 = (a.call m).2

lemma items_run_of_ne {m : Multimap κ α} {call : Addition κ α} {key : κ} (h : call.key ≠ key) :
    (call.run m).items key = m.items key := by
  rw [Multimap.items, items?_run, if_neg h, Multimap.items]

lemma told_eq (m : Multimap κ α) (call : Addition κ α) :
    (call.call m).2 = (m.items call.key).length + call.items.length := by
  rw [told_call, Multimap.items, items?_run, if_pos rfl, Option.getD_some, List.length_append]

lemma commutes_of_ne (m : Multimap κ α) {a b : Addition κ α} (h : a.key ≠ b.key) : Commutes m a b := by
  refine ⟨?_, ?_, ?_⟩
  · rw [table_call, table_call, table_call, table_call]
    refine Multimap.ext_items? fun key => ?_
    simp only [items?_run, items_run_of_ne h, items_run_of_ne h.symm]
    by_cases ha : a.key = key
    · have hb : b.key ≠ key := fun hb => h (ha.trans hb.symm)
      simp [ha, hb]
    · simp [ha]
  · rw [table_call, told_eq, told_eq, items_run_of_ne h]
  · rw [table_call, told_eq, told_eq, items_run_of_ne h.symm]

end Multimaps

/-! ### The same calls on a hash table -/

section Hashed

variable {κ α : Type} [DecidableEq κ] [Hashable κ]

/-- Makes a call on lists that are filed by the hash of their keys. -/
def Addition.callHashed (table : Std.HashMap κ (List α)) (call : Addition κ α) : Std.HashMap κ (List α) × Nat :=
  let items := table.getD call.key [] ++ call.items
  (table.insert call.key items, items.length)

/-- A hash table after some calls. -/
def hashed (calls : List (Addition κ α)) : Std.HashMap κ (List α) :=
  calls.foldl (fun table call => (call.callHashed table).1) ∅

lemma hashed_next (calls : List (Addition κ α)) (call : Addition κ α) :
    hashed (calls ++ [call]) = (call.callHashed (hashed calls)).1 := List.foldl_concat _ _ _ _

variable [Ord κ] [Std.TransOrd κ] [Std.LawfulEqOrd κ]

lemma getElem?_hashed (calls : List (Addition κ α)) (key : κ) :
    (hashed calls)[key]? = (filled calls).items? key := by
  induction calls using List.reverseRecOn generalizing key with
  | nil => exact Std.HashMap.getElem?_empty.trans (Multimap.items?_empty key).symm
  | append_singleton calls call ih =>
    -- whatever shares the bucket, the look-up compares the keys themselves
    rw [hashed_next, filled_next, items?_run, Addition.callHashed, Std.HashMap.getElem?_insert,
      Std.HashMap.getD_eq_getD_getElem?, ih, ih]
    simp only [beq_iff_eq]
    rfl

lemma callHashed_hashed (calls : List (Addition κ α)) (call : Addition κ α) :
    call.callHashed (hashed calls) = (hashed (calls ++ [call]), (call.call (filled calls)).2) := by
  refine Prod.ext (hashed_next calls call).symm ?_
  rw [told_eq, Multimap.items, ← getElem?_hashed, ← Std.HashMap.getD_eq_getD_getElem?, ← List.length_append]
  rfl

/-- A hash table lists the entries in an order of its own. -/
lemma toList_hashed (calls : List (Addition κ α)) : (hashed calls).toList.Perm (filled calls).entries := by
  have hnodup : (hashed calls).toList.Nodup := by
    refine Std.HashMap.distinct_keys_toList.imp fun {a b} hne he => ?_
    rw [he, beq_self_eq_true] at hne
    exact absurd hne (by decide)
  refine (List.perm_ext_iff_of_nodup hnodup (nodup_entries _)).mpr fun entry => ?_
  obtain ⟨key, items⟩ := entry
  rw [Std.HashMap.mem_toList_iff_getElem?_eq_some, Multimap.mem_entries, getElem?_hashed]

/-- Terms are filed by fingerprint alone. -/
instance : Hashable Term := ⟨Term.fingerprint⟩

/-- After any calls every key has what was given for it, in order, and no key is known that was not used. The next call
tells how many items its key has then. A hash table answers the same calls alike and lists the same entries. Only the
calls for each key and their order matter, so that calls for different keys may change places. -/
theorem multimap_keeps_lists_of_calls (calls : List (Addition κ α)) :
    KeepsLists calls (filled calls) ∧
    (∀ call : Addition κ α,
      call.call (filled calls) = (filled (calls ++ [call]), (itemsGiven call.key (calls ++ [call])).length) ∧
      call.callHashed (hashed calls) = (hashed (calls ++ [call]), (itemsGiven call.key (calls ++ [call])).length)) ∧
    (hashed calls).toList.Perm (filled calls).entries ∧
    (∀ others : List (Addition κ α), (∀ key, callsFor key others = callsFor key calls) → filled others = filled calls) ∧
    ∀ (m : Multimap κ α) (a b : Addition κ α), a.key ≠ b.key → Commutes m a b := by
  have htold : ∀ call : Addition κ α,
      (call.call (filled calls)).2 = (itemsGiven call.key (calls ++ [call])).length := fun call => by
    rw [told_eq, items_filled, itemsGiven_next, List.length_append]
  refine ⟨keepsLists_filled calls, fun call => ⟨?_, ?_⟩, toList_hashed calls, fun others => filled_eq_of_callsFor,
    fun m a b => commutes_of_ne m⟩
  · rw [← htold, filled_next, ← table_call]
  · rw [← htold, callHashed_hashed]

end Hashed

/-- A term, another text under its fingerprint, and its text under another fingerprint are three keys, of which two
share a bucket. -/
theorem multimap_keeps_lists_of_calls_colliding_terms :
    let cat := Term.ofText "cat"
    let forged : Term := ⟨cat.fingerprint, "dog"⟩
    let stale : Term := ⟨cat.fingerprint + 1, "cat"⟩
    let calls : List (Addition Term Nat) := [.one cat 3, .many forged [], .many stale [7, 8], .many cat [1, 3]]
    hash forged = hash cat ∧ cat ≠ forged ∧ cat ≠ stale ∧ KeepsLists calls (filled calls) ∧
      (filled calls).items cat = [3, 1, 3] ∧ (filled calls).items stale = [7, 8] ∧
      (filled calls).items forged = [] ∧ forged ∈ (filled calls).keys ∧ (filled calls).itemCount = 5 ∧
      (hashed calls).toList.Perm (filled calls).entries ∧
      ((Addition.one cat 9).callHashed (hashed calls)).2 = 4 ∧ Commutes (filled calls) (.one cat 9) (.one forged 6) := by
  intro cat forged stale calls
  have hforged : cat ≠ forged := by simp [cat, forged, Term.ofText]
  have hstale : cat ≠ stale := by simp [cat, stale, Term.ofText]
  have hothers : forged ≠ stale := by simp [forged, stale]
  obtain ⟨hkeeps, hnext, hentries, -, hcommutes⟩ := multimap_keeps_lists_of_calls calls
  have hcat : itemsGiven cat calls = [3, 1, 3] := by
    simp [itemsGiven, callsFor, calls, Addition.key, Addition.items, hforged.symm, hstale.symm]
  refine ⟨rfl, hforged, hstale, hkeeps, ?_, ?_, ?_, ?_, ?_, hentries, ?_, hcommutes _ _ _ hforged⟩
  · rw [hkeeps.items, hcat]
  · rw [hkeeps.items]
    simp [itemsGiven, callsFor, calls, Addition.key, Addition.items, hstale, hothers]
  · rw [hkeeps.items]
    simp [itemsGiven, callsFor, calls, Addition.key, Addition.items, hforged, hothers.symm]
  · rw [hkeeps.mem_keys]
    simp [calls, Addition.key]
  · rw [hkeeps.itemCount]
    rfl
  · rw [(hnext (.one cat 9)).2, itemsGiven_next (.one cat 9) calls, Addition.key, hcat]
    rfl

end TextSearch.Proofs
