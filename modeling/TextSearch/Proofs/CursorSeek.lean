import Mathlib.Data.List.TakeWhile
import Mathlib.Order.Bounds.Basic
import TextSearch.Query.Cursor

/-!
# Where cursors stand

The place that a cursor finds in an ascending list depends on the list and the target only. It is the
first posting whose ordinal is not below the target, wherever the cursor stood before.
-/

namespace TextSearch.Proofs

/-- The ordinals never go back. A document may have several postings. -/
def Ascending (ps : PostingList) : Prop := ps.Pairwise fun p q => p.ordinal ≤ q.ordinal

instance : DecidablePred Ascending := fun ps =>
  inferInstanceAs (Decidable (ps.Pairwise fun p q => p.ordinal ≤ q.ordinal))

/-- The documents of a list, in the order of their postings. -/
def ordinals (ps : PostingList) : List Ordinal := ps.map Posting.ordinal

@[simp] lemma ordinals_nil : ordinals [] = [] := rfl

@[simp] lemma ordinals_cons (p : Posting) (ps : PostingList) :
    ordinals (p :: ps) = p.ordinal :: ordinals ps := rfl

/-- An answer names the least of some ordinals, or tells that there is none. -/
def IsFirst (S : Set Ordinal) : Option Ordinal → Prop
  | some d => IsLeast S d
  | none => S = ∅

lemma IsFirst.unique {S : Set Ordinal} {a b : Option Ordinal} (ha : IsFirst S a) (hb : IsFirst S b) :
    a = b := by
  cases a with
  | none =>
    cases b with
    | none => rfl
    | some d =>
      have hd : d ∈ S := hb.1
      rw [show S = ∅ from ha] at hd
      exact hd.elim
  | some c =>
    cases b with
    | none =>
      have hc : c ∈ S := ha.1
      rw [show S = ∅ from hb] at hc
      exact hc.elim
    | some d => exact congrArg some (UInt32.le_antisymm (ha.2 hb.1) (hb.2 ha.1))

/-- The documents of a list from an ordinal on. -/
def documentsFrom (ps : PostingList) (id : Ordinal) : Set Ordinal := {n | id ≤ n ∧ n ∈ ordinals ps}

/-- The cursor at the first posting of a list whose ordinal is not below a target. -/
def cursorAt (target : Ordinal) (ps : PostingList) : Cursor := Cursor.advance target [] ps

lemma advance_append (target : Ordinal) (before passed rest : PostingList)
    (h : ∀ p ∈ passed, p.ordinal < target) :
    Cursor.advance target before (passed ++ rest) =
      Cursor.advance target (passed.reverse ++ before) rest := by
  induction passed generalizing before with
  | nil => rfl
  | cons p passed ih =>
    have hp : p.ordinal < target := h p List.mem_cons_self
    have hrest : ∀ q ∈ passed, q.ordinal < target := fun q hq => h q (List.mem_cons_of_mem p hq)
    rw [List.cons_append, Cursor.advance, if_pos hp, ih (p :: before) hrest]
    simp

/-- A cursor that is not past a target has left only lower ordinals behind. -/
lemma lt_of_not_isPast {c : Cursor} {target : Ordinal} (hc : Ascending c.postings)
    (h : ¬c.isPast target) : ∀ p ∈ c.before, p.ordinal < target := by
  obtain ⟨before, rest⟩ := c
  cases before with
  | nil => simp
  | cons b before =>
    have hb : b.ordinal < target := by simpa [Cursor.isPast] using h
    have hle : ∀ p ∈ before, p.ordinal ≤ b.ordinal := by
      unfold Ascending Cursor.postings at hc
      rw [List.pairwise_append, List.pairwise_reverse, List.pairwise_cons] at hc
      exact hc.1.1
    intro p hp
    cases hp with
    | head => exact hb
    | tail _ hp => exact UInt32.lt_of_le_of_lt (hle p hp) hb

/-- The place that is found does not depend on where the cursor stood. -/
theorem cursor_seek_eq {c : Cursor} (hc : Ascending c.postings) (target : Ordinal) :
    c.seek target = cursorAt target c.postings := by
  unfold Cursor.seek Cursor.origin cursorAt
  by_cases h : c.isPast target
  · rw [if_pos h]
    rfl
  · -- Starting over would pass the postings behind the cursor again and stop nowhere among them.
    rw [if_neg h, Cursor.postings,
      advance_append target [] c.before.reverse c.rest (by simpa using lt_of_not_isPast hc h)]
    simp

lemma isFirst_ordinal?_advance (target : Ordinal) (before : PostingList) {rest : PostingList}
    (h : Ascending rest) :
    IsFirst (documentsFrom rest target) (Cursor.advance target before rest).ordinal? := by
  induction rest generalizing before with
  | nil => simp [Cursor.advance, Cursor.ordinal?, Cursor.current?, IsFirst, documentsFrom]
  | cons p rest ih =>
    obtain ⟨hle, hrest⟩ := List.pairwise_cons.mp h
    rw [Cursor.advance]
    by_cases hp : p.ordinal < target
    · rw [if_pos hp]
      have hsame : documentsFrom (p :: rest) target = documentsFrom rest target := by
        ext n
        simp only [documentsFrom, ordinals_cons, List.mem_cons, Set.mem_ofPred_eq]
        grind
      rw [hsame]
      exact ih (p :: before) hrest
    · rw [if_neg hp]
      refine ⟨⟨UInt32.not_lt.mp hp, List.mem_cons_self⟩, ?_⟩
      rintro n ⟨-, hn⟩
      rw [ordinals_cons, List.mem_cons, ordinals, List.mem_map] at hn
      obtain rfl | ⟨q, hq, rfl⟩ := hn
      · exact UInt32.le_refl _
      · exact hle q hq

/-- What a cursor finds is the first document from the target on. -/
theorem isFirst_ordinal?_seek {c : Cursor} (hc : Ascending c.postings) (target : Ordinal) :
    IsFirst (documentsFrom c.postings target) (c.seek target).ordinal? := by
  rw [cursor_seek_eq hc]
  exact isFirst_ordinal?_advance target [] hc

/-! ### Places -/

/-- A cursor over a whole list stands at the first posting whose ordinal is not below a target, with as many postings
behind it as have ordinals below. -/
structure StandsAtFirst (ps : PostingList) (target : Ordinal) (c : Cursor) : Prop where
  postings : c.postings = ps
  position : c.position = ps.countP fun p => p.ordinal < target
  current? : c.current? = ps[c.position]?
  first : c.current? = ps.find? fun p => target ≤ p.ordinal
  ordinal? : c.ordinal? = (ps.find? fun p => target ≤ p.ordinal).map Posting.ordinal

lemma advance_eq (target : Ordinal) (before rest : PostingList) :
    Cursor.advance target before rest =
      ⟨(rest.takeWhile fun p => p.ordinal < target).reverse ++ before, rest.dropWhile fun p => p.ordinal < target⟩ := by
  induction rest generalizing before with
  | nil => rfl
  | cons p rest ih =>
    rw [Cursor.advance]
    by_cases hp : p.ordinal < target
    · rw [if_pos hp, ih, List.takeWhile_cons_of_pos (by simpa using hp), List.dropWhile_cons_of_pos (by simpa using hp),
        List.reverse_cons, List.append_assoc, List.singleton_append]
    · rw [if_neg hp, List.takeWhile_cons_of_neg (by simpa using hp), List.dropWhile_cons_of_neg (by simpa using hp)]
      rfl

/-- In an ascending list the lower ordinals are in front. -/
lemma length_takeWhile_eq_countP {ps : PostingList} (h : Ascending ps) (target : Ordinal) :
    (ps.takeWhile fun p => p.ordinal < target).length = ps.countP fun p => p.ordinal < target := by
  induction ps with
  | nil => rfl
  | cons p ps ih =>
    obtain ⟨hle, hps⟩ := List.pairwise_cons.mp h
    by_cases hp : p.ordinal < target
    · rw [List.takeWhile_cons_of_pos (by simpa using hp), List.countP_cons_of_pos (by simpa using hp), List.length_cons,
        ih hps]
    · have hnone : (p :: ps).countP (fun q => decide (q.ordinal < target)) = 0 := by
        refine List.countP_eq_zero.mpr fun q hq hlow => hp ?_
        cases hq with
        | head => exact of_decide_eq_true hlow
        | tail _ hq => exact UInt32.lt_of_le_of_lt (hle q hq) (of_decide_eq_true hlow)
      rw [List.takeWhile_cons_of_neg (by simpa using hp), hnone, List.length_nil]

/-- What a cursor stands at is in its list, at its position. -/
lemma current?_eq_getElem? (c : Cursor) : c.current? = c.postings[c.position]? := by
  unfold Cursor.current? Cursor.postings Cursor.position
  rw [List.getElem?_append_right (by simp), List.length_reverse, Nat.sub_self, List.head?_eq_getElem?]

/-- Wherever it stood, a cursor comes to the first posting of its whole list. -/
lemma standsAtFirst_seek {c : Cursor} (hc : Ascending c.postings) (target : Ordinal) :
    StandsAtFirst c.postings target (c.seek target) := by
  have hseek : c.seek target = ⟨(c.postings.takeWhile fun p => p.ordinal < target).reverse ++ [],
      c.postings.dropWhile fun p => p.ordinal < target⟩ := by
    rw [cursor_seek_eq hc]
    exact advance_eq target [] c.postings
  have hfirst : (c.seek target).current? = c.postings.find? fun p => target ≤ p.ordinal := by
    have hnot : (fun p : Posting => decide (target ≤ p.ordinal)) = fun p => !decide (p.ordinal < target) := by
      funext p
      exact (decide_eq_decide.mpr UInt32.not_lt.symm).trans (by rw [decide_not])
    rw [hseek, hnot, List.find?_not_eq_head?_dropWhile]
    rfl
  refine ⟨Cursor.postings_seek c target, ?_, ?_, hfirst, ?_⟩
  · rw [hseek, Cursor.position, List.append_nil, List.length_reverse, length_takeWhile_eq_countP hc]
  · rw [current?_eq_getElem?, Cursor.postings_seek]
  · rw [Cursor.ordinal?, hfirst]

/-- A cursor that is not past a target has only to go on. -/
lemma position_seek_of_not_isPast {c : Cursor} (hc : Ascending c.postings) {target : Ordinal} (h : ¬c.isPast target) :
    (c.seek target).position = c.position + c.rest.countP fun p => p.ordinal < target := by
  have hbefore : c.before.reverse.countP (fun p => decide (p.ordinal < target)) = c.before.reverse.length :=
    List.countP_eq_length.mpr fun p hp => decide_eq_true (lt_of_not_isPast hc h p (List.mem_reverse.mp hp))
  rw [(standsAtFirst_seek hc target).position, Cursor.postings, List.countP_append, hbefore, List.length_reverse,
    Cursor.position]

lemma postings_foldl_seek (c : Cursor) (earlier : List Ordinal) :
    (earlier.foldl Cursor.seek c).postings = c.postings := by
  induction earlier generalizing c with
  | nil => rfl
  | cons target earlier ih => exact (ih (c.seek target)).trans (Cursor.postings_seek c target)

/-- After any seeks a cursor over an ascending list comes to the first posting of the whole list from the target on. It
does so from every other position too, as if it had stood at the front, and where it is not past the target it passes
the lower ordinals that are left. -/
theorem cursor_stands_at_first_after_seeks {ps : PostingList} (h : Ascending ps) (target : Ordinal) :
    (∀ earlier : List Ordinal,
      StandsAtFirst ps target ((earlier.foldl Cursor.seek (Cursor.ofList ps)).seek target)) ∧
    ∀ c : Cursor, c.postings = ps → StandsAtFirst ps target (c.seek target) ∧
      c.seek target = (Cursor.ofList ps).seek target ∧
      (¬c.isPast target → (c.seek target).position = c.position + c.rest.countP fun p => p.ordinal < target) := by
  have hfirst : ∀ c : Cursor, c.postings = ps → StandsAtFirst ps target (c.seek target) := by
    rintro c rfl
    exact standsAtFirst_seek h target
  have hfront : Ascending (Cursor.ofList ps).postings := by rwa [Cursor.postings_ofList]
  refine ⟨fun earlier => hfirst _ ?_, fun c hc => ⟨hfirst c hc, ?_, ?_⟩⟩
  · rw [postings_foldl_seek, Cursor.postings_ofList]
  · rw [cursor_seek_eq hfront, Cursor.postings_ofList, cursor_seek_eq (hc ▸ h), hc]
  · exact fun hpast => position_seek_of_not_isPast (hc ▸ h) hpast

/-- Two documents have two postings each. The cursor has been at its end, and goes back between them. -/
theorem cursor_stands_at_first_after_end :
    let ps : PostingList := [⟨2, []⟩, ⟨2, [0, 1, 7]⟩, ⟨5, []⟩, ⟨5, [0, 1, 3]⟩, ⟨8, []⟩]
    let c := [9, 2, 6].foldl Cursor.seek (Cursor.ofList ps)
    Ascending ps ∧ StandsAtFirst ps 5 (c.seek 5) ∧ (c.seek 5).current? = some ⟨5, []⟩ ∧ (c.seek 5).position = 2 ∧
      c.seek 5 = (Cursor.ofList ps).seek 5 := by
  intro ps c
  have hps : Ascending ps := by decide
  obtain ⟨hseeks, hanywhere⟩ := cursor_stands_at_first_after_seeks hps 5
  exact ⟨hps, hseeks [9, 2, 6], by decide, by decide, (hanywhere c (by decide)).2.1⟩

end TextSearch.Proofs
