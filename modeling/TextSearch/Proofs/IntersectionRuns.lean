import TextSearch.Proofs.SharedDocuments

/-!
# Runs of an intersection

An intersection can be asked for documents in any order, by seeking and by going on with its
enumeration. Every answer is the first shared document from the ordinal asked for on, and the
enumeration gives all shared documents in ascending order, each once.
-/

namespace TextSearch.Proofs

/-- What an intersection can be asked. -/
inductive Call where
  | seek (id : Ordinal)
  | next
  deriving DecidableEq, Repr

/-- The intersection after a call, and its answer. -/
def Call.run (i : Intersection) : Call → Intersection × Option Ordinal
  | .seek id => i.seek id
  | .next => i.next

/-- The intersection after some calls. -/
def after (i : Intersection) (history : List Call) : Intersection :=
  history.foldl (fun i call => (call.run i).1) i

@[simp] lemma listsOf_ofLists (lists : List PostingList) :
    listsOf (Intersection.ofLists lists).cursors = lists := by
  simp [listsOf, Intersection.ofLists, Function.comp_def]

@[simp] lemma listsOf_seek (i : Intersection) (id : Ordinal) :
    listsOf (i.seek id).1.cursors = listsOf i.cursors := listsOf_seekAll id i.cursors

@[simp] lemma listsOf_next (i : Intersection) : listsOf i.next.1.cursors = listsOf i.cursors := by
  unfold Intersection.next
  split
  · rfl
  · rename_i id _
    exact listsOf_seek i id

/-- No call touches the lists. -/
lemma listsOf_run (i : Intersection) (call : Call) :
    listsOf (call.run i).1.cursors = listsOf i.cursors := by
  cases call with
  | seek id => exact listsOf_seek i id
  | next => exact listsOf_next i

lemma listsOf_after (i : Intersection) (history : List Call) :
    listsOf (after i history).cursors = listsOf i.cursors := by
  induction history generalizing i with
  | nil => rfl
  | cons call history ih => exact (ih (call.run i).1).trans (listsOf_run i call)

lemma cursors_ne_nil {i : Intersection} (h : listsOf i.cursors ≠ []) : i.cursors ≠ [] := by
  intro he
  rw [he] at h
  exact h rfl

lemma seek_isFirst {i : Intersection} {lists : List PostingList} (hi : listsOf i.cursors = lists)
    (hne : lists ≠ []) (hl : ∀ ps ∈ lists, Ascending ps) (id : Ordinal) :
    IsFirst (sharedFrom lists id) (i.seek id).2 := by
  subst hi
  exact seekAll_isFirst id (cursors_ne_nil hne) hl

/-- Whatever was asked before, seeking finds the least ordinal from the one asked for on that every
list has, and finds none only if there is none. So the answer is the same after any other history,
for the same lists in another order, and if some of them are named several times. -/
theorem seek_isFirst_after_history {lists : List PostingList} (hne : lists ≠ [])
    (hl : ∀ ps ∈ lists, Ascending ps) (history : List Call) (id : Ordinal) :
    IsFirst (sharedFrom lists id) ((after (Intersection.ofLists lists) history).seek id).2 ∧
      ∀ (others : List PostingList) (past : List Call), (∀ ps, ps ∈ others ↔ ps ∈ lists) →
        ((after (Intersection.ofLists others) past).seek id).2 =
          ((after (Intersection.ofLists lists) history).seek id).2 := by
  have hfirst : ∀ (others : List PostingList) (past : List Call), (∀ ps, ps ∈ others ↔ ps ∈ lists) →
      IsFirst (sharedFrom lists id) ((after (Intersection.ofLists others) past).seek id).2 := by
    intro others past hsame
    have hothers : others ≠ [] := by
      obtain ⟨ps, hps⟩ := List.exists_mem_of_ne_nil lists hne
      exact List.ne_nil_of_mem ((hsame ps).mpr hps)
    have hlists : listsOf (after (Intersection.ofLists others) past).cursors = others := by
      rw [listsOf_after, listsOf_ofLists]
    rw [← sharedFrom_congr hsame id]
    exact seek_isFirst hlists hothers (fun ps hps => hl ps ((hsame ps).mp hps)) id
  refine ⟨hfirst lists history fun _ => Iff.rfl, ?_⟩
  intro others past hsame
  exact (hfirst others past hsame).unique (hfirst lists history fun _ => Iff.rfl)

/-- Three lists with repeated ordinals. A seek beyond their last shared document leaves the cursors at
different places, and the next one goes back. -/
theorem seek_isFirst_after_failed_seek :
    let lists : List PostingList :=
      [[⟨1, []⟩, ⟨1, []⟩, ⟨4, []⟩, ⟨9, []⟩], [⟨1, []⟩, ⟨9, []⟩, ⟨9, []⟩, ⟨15, []⟩], [⟨1, []⟩, ⟨9, []⟩, ⟨20, []⟩]]
    let history := [Call.seek 9, .next, .seek 10, .seek 0, .seek 16]
    lists ≠ [] ∧ (∀ ps ∈ lists, Ascending ps) ∧
      IsFirst (sharedFrom lists 2) ((after (Intersection.ofLists lists) history).seek 2).2 :=
  ⟨by decide, by decide, (seek_isFirst_after_history (by decide) (by decide) _ 2).1⟩

/-- The documents that the enumeration has not come to yet. -/
def pending (i : Intersection) : Set Ordinal :=
  {n | ∃ id, i.upcoming = some id ∧ n ∈ sharedFrom (listsOf i.cursors) id}

structure Enumerable (i : Intersection) : Prop where
  ascending : ∀ ps ∈ listsOf i.cursors, Ascending ps
  hasLists : ∀ id, i.upcoming = some id → listsOf i.cursors ≠ []

lemma enumerable_ofLists {lists : List PostingList} (hl : ∀ ps ∈ lists, Ascending ps) :
    Enumerable (Intersection.ofLists lists) where
  ascending := by rwa [listsOf_ofLists]
  hasLists id hid := by
    rw [listsOf_ofLists]
    rintro rfl
    simp [Intersection.ofLists] at hid

lemma pending_ofLists (lists : List PostingList) :
    pending (Intersection.ofLists lists) = {n | lists ≠ [] ∧ ∀ ps ∈ lists, n ∈ ordinals ps} := by
  ext n
  cases lists with
  | nil => simp [pending, Intersection.ofLists]
  | cons ps lists =>
    simp only [pending, sharedFrom, listsOf_ofLists, Set.mem_ofPred_eq]
    constructor
    · rintro ⟨id, -, -, hall⟩
      exact ⟨List.cons_ne_nil ps lists, hall⟩
    · rintro ⟨-, hall⟩
      exact ⟨0, rfl, UInt32.zero_le, hall⟩

lemma next?_le_iff (d n : Ordinal) : (∃ id, Ordinal.next? d = some id ∧ id ≤ n) ↔ d < n := by
  have hd := d.toNat_lt
  have hn := n.toNat_lt
  rw [UInt32.lt_iff_toNat_lt]
  unfold Ordinal.next?
  by_cases h : d.toNat + 1 < UInt32.size
  · have hsucc : (d + 1).toNat = d.toNat + 1 := by
      rw [UInt32.toNat_add]
      exact Nat.mod_eq_of_lt h
    rw [if_pos h]
    constructor
    · rintro ⟨id, hid, hle⟩
      obtain rfl := Option.some.inj hid
      rw [UInt32.le_iff_toNat_le, hsucc] at hle
      omega
    · intro hlt
      refine ⟨d + 1, rfl, ?_⟩
      rw [UInt32.le_iff_toNat_le, hsucc]
      omega
  · rw [if_neg h]
    simp only [reduceCtorEq, false_and, exists_false, false_iff]
    rw [UInt32.size] at h
    omega

/-- Going on gives the first document that the enumeration has not come to yet. -/
lemma next_isFirst {i : Intersection} (h : Enumerable i) : IsFirst (pending i) i.next.2 := by
  unfold Intersection.next
  split
  · rename_i hu
    simp [IsFirst, pending, hu]
  · rename_i id hu
    have hsame : pending i = sharedFrom (listsOf i.cursors) id := by
      ext n
      simp [pending, hu]
    rw [hsame]
    exact seek_isFirst rfl (h.hasLists id hu) h.ascending id

lemma upcoming_next (i : Intersection) : i.next.1.upcoming = i.next.2.bind Ordinal.next? := by
  unfold Intersection.next
  split
  · assumption
  · rfl

lemma enumerable_next {i : Intersection} (h : Enumerable i) : Enumerable i.next.1 where
  ascending := by
    rw [listsOf_next]
    exact h.ascending
  hasLists id hid := by
    rw [listsOf_next]
    cases hu : i.upcoming with
    | none => simp [Intersection.next, hu] at hid
    | some first => exact h.hasLists first hu

lemma mem_pending_next {i : Intersection} (h : Enumerable i) {d : Ordinal} (hd : i.next.2 = some d)
    (n : Ordinal) : n ∈ pending i.next.1 ↔ n ∈ pending i ∧ d < n := by
  have hfirst := next_isFirst h
  rw [hd] at hfirst
  obtain ⟨first, hu, hshared⟩ := hfirst.1
  have hle : first ≤ d := hshared.1
  simp only [pending, upcoming_next, hd, listsOf_next, sharedFrom, Option.bind_some,
    Set.mem_ofPred_eq, hu, Option.some.injEq]
  rw [← next?_le_iff]
  constructor
  · rintro ⟨id, hid, hn, hall⟩
    have hlt : d < n := (next?_le_iff d n).mp ⟨id, hid, hn⟩
    exact ⟨⟨first, rfl, UInt32.le_trans hle (UInt32.le_of_lt hlt), hall⟩, id, hid, hn⟩
  · rintro ⟨⟨-, -, -, hall⟩, id, hid, hn⟩
    exact ⟨id, hid, hn, hall⟩

lemma toList_of_next_none {i j : Intersection} (h : i.next = (j, none)) : i.toList = [] := by
  rw [Intersection.toList]
  split <;> simp_all

lemma toList_of_next_some {i j : Intersection} {d : Ordinal} (h : i.next = (j, some d)) :
    i.toList = d :: j.toList := by
  rw [Intersection.toList]
  split <;> simp_all

lemma mem_toList {i : Intersection} (h : Enumerable i) (n : Ordinal) :
    n ∈ i.toList ↔ n ∈ pending i := by
  fun_induction Intersection.toList i with
  | case1 i j hn =>
    have hfirst := next_isFirst h
    rw [hn] at hfirst
    rw [show pending i = ∅ from hfirst]
    simp
  | case2 i j d hn ih =>
    have hfirst := next_isFirst h
    have hnext := enumerable_next h
    have hrest := mem_pending_next h (congrArg Prod.snd hn) n
    rw [hn] at hfirst hnext hrest
    rw [List.mem_cons, ih hnext, hrest]
    constructor
    · rintro (rfl | ⟨hp, -⟩)
      · exact hfirst.1
      · exact hp
    · intro hp
      obtain hlt | rfl := UInt32.lt_or_eq_of_le (hfirst.2 hp)
      · exact Or.inr ⟨hp, hlt⟩
      · exact Or.inl rfl

/-- The enumeration is in ascending order and names no document twice. -/
lemma pairwise_toList {i : Intersection} (h : Enumerable i) : i.toList.Pairwise (· < ·) := by
  fun_induction Intersection.toList i with
  | case1 => exact List.Pairwise.nil
  | case2 i j d hn ih =>
    have hnext := enumerable_next h
    have hrest := mem_pending_next h (congrArg Prod.snd hn)
    rw [hn] at hnext hrest
    refine List.pairwise_cons.mpr ⟨?_, ih hnext⟩
    intro n hmem
    exact ((hrest n).mp ((mem_toList hnext n).mp hmem)).2

end TextSearch.Proofs
