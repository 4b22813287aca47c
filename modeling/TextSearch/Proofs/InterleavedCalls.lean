import Mathlib.Data.List.Sort
import TextSearch.Proofs.IntersectionRuns

/-!
# Interleaved calls

The enumeration of an intersection does not notice what is sought in between. After every call that
found a document, each cursor stands at the first posting of that document.
-/

namespace TextSearch.Proofs

/-! ### Where the cursors stand -/

/-- The place found for a target is the place of the document found there. -/
lemma advance_found {target d : Ordinal} {before rest : PostingList}
    (h : (Cursor.advance target before rest).ordinal? = some d) :
    Cursor.advance target before rest = Cursor.advance d before rest := by
  induction rest generalizing before with
  | nil => rfl
  | cons p rest ih =>
    rw [Cursor.advance] at h ⊢
    by_cases hp : p.ordinal < target
    · rw [if_pos hp] at h ⊢
      have hd : p.ordinal < d := UInt32.lt_of_lt_of_le hp (Cursor.le_of_ordinal?_advance h)
      rw [ih h, Cursor.advance, if_pos hd]
    · rw [if_neg hp] at h ⊢
      obtain rfl : p.ordinal = d := Option.some.inj h
      rw [Cursor.advance, if_neg (UInt32.lt_irrefl _)]

lemma seek_eq_of_found {c : Cursor} {target d : Ordinal} (hc : Ascending c.postings)
    (h : (c.seek target).ordinal? = some d) : c.seek target = cursorAt d c.postings := by
  rw [cursor_seek_eq hc] at h ⊢
  exact advance_found h

/-- A sweep that all lists agree to leaves every cursor at the candidate. -/
lemma sweep_agreed {candidate : Ordinal} {cursors : List Cursor}
    (hl : ∀ ps ∈ listsOf cursors, Ascending ps) (h : (sweep candidate cursors).2 = .agreed) :
    (sweep candidate cursors).1 = (listsOf cursors).map (cursorAt candidate) := by
  fun_induction sweep candidate cursors with
  | case1 => rfl
  | case2 => simp at h
  | case3 c rest here others verdict hs hfound ih =>
    have hc : here = cursorAt candidate c.postings :=
      cursor_seek_eq (hl c.postings List.mem_cons_self) candidate
    have hothers : others = (listsOf rest).map (cursorAt candidate) := by
      rw [hs] at ih
      exact ih (fun ps hps => hl ps (List.mem_cons_of_mem _ hps)) h
    rw [hothers, hc, listsOf_cons, List.map_cons]
  | case4 => simp at h

lemma settle_found {first : Cursor} {candidate d : Ordinal} {others moved : List Cursor}
    (hf : Ascending first.postings) (hl : ∀ ps ∈ listsOf others, Ascending ps)
    (hplace : first = cursorAt candidate first.postings)
    (h : settle first candidate others = (moved, some d)) :
    moved = (first.postings :: listsOf others).map (cursorAt d) := by
  fun_induction settle first candidate others with
  | case1 first candidate others agreed hs =>
    obtain ⟨rfl, hd⟩ := Prod.mk.inj h
    obtain rfl := Option.some.inj hd
    have hagreed : agreed = (listsOf others).map (cursorAt candidate) := by
      have hswept := sweep_agreed hl (congrArg Prod.snd hs)
      rwa [hs] at hswept
    rw [hagreed, List.map_cons, ← hplace]
  | case2 => simp at h
  | case3 => simp at h
  | case4 first candidate others swept found hs next hn ih =>
    -- The round starts anew: the lists are the same, and the first cursor stands at its new candidate.
    have hlists : listsOf swept = listsOf others := by rw [← listsOf_sweep candidate others, hs]
    have hfirst := seek_eq_of_found hf hn
    rw [Cursor.postings_seek, hlists] at ih
    exact ih hf hl hfirst h

/-- A search that finds a document leaves every cursor at it. -/
theorem seekAll_found {id d : Ordinal} {cursors moved : List Cursor}
    (hl : ∀ ps ∈ listsOf cursors, Ascending ps) (h : seekAll id cursors = (moved, some d)) :
    moved = (listsOf cursors).map (cursorAt d) := by
  cases cursors with
  | nil => simp [seekAll] at h
  | cons first others =>
    obtain ⟨hf, ho⟩ := List.forall_mem_cons.mp hl
    rw [seekAll] at h
    split at h
    · simp at h
    · rename_i candidate hc
      have hplace := seek_eq_of_found hf hc
      rw [listsOf_cons, ← Cursor.postings_seek first id]
      exact settle_found (by rwa [Cursor.postings_seek]) ho (by rwa [Cursor.postings_seek]) h

lemma cursors_run_of_found {i : Intersection} {call : Call} {d : Ordinal}
    (hl : ∀ ps ∈ listsOf i.cursors, Ascending ps) (h : (call.run i).2 = some d) :
    (call.run i).1.cursors = (listsOf i.cursors).map (cursorAt d) := by
  have hseek : ∀ id, (i.seek id).2 = some d →
      (i.seek id).1.cursors = (listsOf i.cursors).map (cursorAt d) :=
    fun id hid => seekAll_found hl (Prod.ext rfl hid)
  cases call with
  | seek id => exact hseek id h
  | next =>
    rw [Call.run, Intersection.next] at h ⊢
    cases hu : i.upcoming with
    | none => simp [hu] at h
    | some id =>
      rw [hu] at h
      exact hseek id h

lemma mem_ordinals_of_found {i : Intersection} {call : Call} {d : Ordinal}
    (hi : Enumerable i) (h : (call.run i).2 = some d) : ∀ ps ∈ listsOf i.cursors, d ∈ ordinals ps := by
  cases call with
  | seek id =>
    have hne : listsOf i.cursors ≠ [] := by
      intro hnil
      have hcursors : i.cursors = [] := List.map_eq_nil_iff.mp hnil
      simp [Call.run, Intersection.seek, hcursors, seekAll] at h
    have hfirst := seek_isFirst rfl hne hi.ascending id
    rw [show (i.seek id).2 = some d from h] at hfirst
    exact hfirst.1.2
  | next =>
    have hfirst := next_isFirst hi
    rw [show i.next.2 = some d from h] at hfirst
    obtain ⟨-, -, -, hall⟩ := hfirst.1
    exact hall

/-- The cursor at a document of an ascending list stands at its first posting. -/
lemma advance_first {d : Ordinal} (before : PostingList) {rest : PostingList} (h : Ascending rest)
    (hd : d ∈ ordinals rest) :
    (Cursor.advance d before rest).current? = rest.find? (·.ordinal = d) ∧
      (Cursor.advance d before rest).position = before.length + rest.findIdx (·.ordinal = d) := by
  induction rest generalizing before with
  | nil => exact absurd hd List.not_mem_nil
  | cons p rest ih =>
    obtain ⟨hle, hrest⟩ := List.pairwise_cons.mp h
    rw [Cursor.advance]
    by_cases hp : p.ordinal < d
    · have hne : p.ordinal ≠ d := UInt32.ne_of_lt hp
      obtain ⟨hcurrent, hposition⟩ := ih (p :: before) hrest
        ((List.mem_cons.mp hd).resolve_left fun he => hne he.symm)
      rw [if_pos hp, hcurrent, hposition]
      simp [hne, List.findIdx_cons, Nat.add_assoc, Nat.add_comm]
    · have he : p.ordinal = d := by
        rcases List.mem_cons.mp hd with rfl | hmem
        · rfl
        · obtain ⟨q, hq, rfl⟩ := List.mem_map.mp hmem
          exact UInt32.le_antisymm (hle q hq) (UInt32.not_lt.mp hp)
      rw [if_neg hp]
      simp [Cursor.current?, Cursor.position, he, List.findIdx_cons]

/-! ### What the enumeration gives -/

/-- What going on gives in the course of some calls. -/
def enumerated (i : Intersection) : List Call → List (Option Ordinal)
  | [] => []
  | .seek id :: calls => enumerated (i.seek id).1 calls
  | .next :: calls => i.next.2 :: enumerated i.next.1 calls

lemma enumerable_seek {i : Intersection} (h : Enumerable i) (id : Ordinal) :
    Enumerable (i.seek id).1 where
  ascending := by
    rw [listsOf_seek]
    exact h.ascending
  hasLists := by
    rw [listsOf_seek]
    exact h.hasLists

lemma enumerable_run {i : Intersection} (h : Enumerable i) (call : Call) :
    Enumerable (call.run i).1 := by
  cases call with
  | seek id => exact enumerable_seek h id
  | next => exact enumerable_next h

lemma enumerable_after {i : Intersection} (h : Enumerable i) (history : List Call) :
    Enumerable (after i history) := by
  induction history generalizing i with
  | nil => exact h
  | cons call history ih => exact ih (enumerable_run h call)

lemma pending_seek (i : Intersection) (id : Ordinal) : pending (i.seek id).1 = pending i := by
  unfold pending
  rw [listsOf_seek]
  rfl

lemma pending_next_of_none {i : Intersection} (h : i.next.2 = none) : pending i.next.1 = ∅ := by
  simp [pending, upcoming_next, h]

/-- Calls in any order: what is left of the enumeration comes in ascending order, and then nothing. -/
theorem enumerated_eq {i : Intersection} (h : Enumerable i) {left : List Ordinal}
    (hsorted : left.Pairwise (· < ·)) (hleft : ∀ n, n ∈ left ↔ n ∈ pending i) (calls : List Call) :
    enumerated i calls = (List.range (calls.count .next)).map (left[·]?) := by
  -- Seeking keeps what is left, and going on takes its head.
  induction calls generalizing i left with
  | nil => rfl
  | cons call calls ih =>
    cases call with
    | seek id =>
      rw [enumerated, ih (enumerable_seek h id) hsorted (by rwa [pending_seek]),
        List.count_cons_of_ne (by simp)]
    | next =>
      have hfirst := next_isFirst h
      rw [enumerated, List.count_cons_self, List.range_succ_eq_map, List.map_cons, List.map_map]
      cases left with
      | nil =>
        have hempty : pending i = ∅ := Set.eq_empty_of_forall_notMem fun n hn =>
          List.not_mem_nil ((hleft n).mpr hn)
        have hnone : i.next.2 = none := hfirst.unique hempty
        rw [hnone, ih (enumerable_next h) List.Pairwise.nil (by simp [pending_next_of_none hnone])]
        rfl
      | cons d left =>
        obtain ⟨hlt, hrest⟩ := List.pairwise_cons.mp hsorted
        have hleast : IsFirst (pending i) (some d) := by
          refine ⟨(hleft d).mp List.mem_cons_self, fun n hn => ?_⟩
          rcases List.mem_cons.mp ((hleft n).mpr hn) with rfl | hmem
          · exact UInt32.le_refl _
          · exact UInt32.le_of_lt (hlt n hmem)
        have hd : i.next.2 = some d := hfirst.unique hleast
        have hleft' : ∀ n, n ∈ left ↔ n ∈ pending i.next.1 := by
          intro n
          rw [mem_pending_next h hd, ← hleft, List.mem_cons]
          constructor
          · intro hn
            exact ⟨Or.inr hn, hlt n hn⟩
          · rintro ⟨rfl | hn, hdn⟩
            · exact absurd hdn (UInt32.lt_irrefl _)
            · exact hn
        rw [hd, ih (enumerable_next h) hrest hleft']
        rfl

/-- However seeking and going on are mixed, going on gives the documents that all lists share in
ascending order, each once, and then nothing for ever. After a call that found a document, whichever it
was, the current postings are the first ones of that document, one for each list. -/
theorem enumeration_is_undisturbed {lists : List PostingList} (hl : ∀ ps ∈ lists, Ascending ps) :
    (∃ shared : List Ordinal, shared.Pairwise (· < ·) ∧
      (∀ n, n ∈ shared ↔ lists ≠ [] ∧ ∀ ps ∈ lists, n ∈ ordinals ps) ∧
      ∀ calls, enumerated (Intersection.ofLists lists) calls =
        (List.range (calls.count .next)).map (shared[·]?)) ∧
    ∀ (history : List Call) (call : Call) (d : Ordinal),
      (call.run (after (Intersection.ofLists lists) history)).2 = some d →
        let reached := (call.run (after (Intersection.ofLists lists) history)).1
        reached.current.map some = lists.map (List.find? (·.ordinal = d)) ∧
          reached.cursors.map Cursor.position = lists.map (List.findIdx (·.ordinal = d)) := by
  have hstart := enumerable_ofLists hl
  constructor
  · refine ⟨(Intersection.ofLists lists).toList, pairwise_toList hstart, fun n => ?_, ?_⟩
    · rw [mem_toList hstart, pending_ofLists, Set.mem_ofPred_eq]
    · exact enumerated_eq hstart (pairwise_toList hstart) (mem_toList hstart)
  · intro history call d hd
    have hlists : listsOf (after (Intersection.ofLists lists) history).cursors = lists := by
      rw [listsOf_after, listsOf_ofLists]
    have hin := mem_ordinals_of_found (enumerable_after hstart history) hd
    have hcursors := cursors_run_of_found (by rwa [hlists]) hd
    rw [hlists] at hin hcursors
    have hfirst : ∀ ps ∈ lists, (cursorAt d ps).current? = ps.find? (·.ordinal = d) ∧
        (cursorAt d ps).position = 0 + ps.findIdx (·.ordinal = d) :=
      fun ps hps => advance_first [] (hl ps hps) (hin ps hps)
    have hsome : ∀ ps ∈ lists, (ps.find? (·.ordinal = d)).isSome := by
      intro ps hps
      obtain ⟨p, hp, hpd⟩ := List.mem_map.mp (hin ps hps)
      exact List.find?_isSome.mpr ⟨p, hp, decide_eq_true hpd⟩
    constructor
    · have hcurrent : (lists.map (cursorAt d)).map Cursor.current? =
          lists.map (List.find? (·.ordinal = d)) := by
        rw [List.map_map]
        exact List.map_congr_left fun ps hps => (hfirst ps hps).1
      rw [Intersection.current, hcursors, List.map_filterMap_some_eq_filter_map_isSome, hcurrent]
      exact List.filter_eq_self.mpr (List.forall_mem_map.mpr hsome)
    · rw [hcursors, List.map_map]
      exact List.map_congr_left fun ps hps => (hfirst ps hps).2.trans (Nat.zero_add _)

/-- Two lists with repeated ordinals that share the last of all ordinals. -/
theorem enumeration_reaches_last_ordinal :
    let lists : List PostingList :=
      [[⟨2, []⟩, ⟨2, [0, 0]⟩, ⟨4, []⟩, ⟨4294967295, [0, 0]⟩, ⟨4294967295, []⟩],
        [⟨1, []⟩, ⟨2, [1, 0]⟩, ⟨2, []⟩, ⟨4294967295, [1, 0]⟩]]
    (∀ ps ∈ lists, Ascending ps) ∧
      enumerated (Intersection.ofLists lists) [.next, .seek 3, .seek 0, .next, .seek 2, .next, .next] =
        [some 2, some 4294967295, none, none] ∧
      (Intersection.ofLists lists).next.1.current = [⟨2, []⟩, ⟨2, [1, 0]⟩] := by
  intro lists
  have hl : ∀ ps ∈ lists, Ascending ps := by decide
  obtain ⟨⟨shared, hsorted, hmem, hrun⟩, hcurrent⟩ := enumeration_is_undisturbed hl
  have hshared : shared = [2, 4294967295] := by
    refine hsorted.eq_of_mem_iff (by decide) fun n => ?_
    rw [hmem, List.forall_mem_cons, List.forall_mem_singleton]
    simp only [ordinals_cons, ordinals_nil, List.mem_cons]
    grind
  subst hshared
  refine ⟨hl, hrun _, ?_⟩
  have hfirst : (Intersection.ofLists lists).next.2 = some 2 := List.head_eq_of_cons_eq (hrun [.next])
  exact List.map_injective_iff.mpr (Option.some_injective _) (hcurrent [] .next 2 hfirst).1

end TextSearch.Proofs
