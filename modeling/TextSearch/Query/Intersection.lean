import TextSearch.Index.Basic
import TextSearch.Query.Cursor

/-!
# Intersections

The documents that several posting lists share. To find the first one from some ordinal on, the
first list proposes a candidate and every other list is asked for it; a list that answers with a
later ordinal makes the first list propose anew.
-/

namespace TextSearch

/-- What the other lists say about a candidate. -/
inductive Verdict where
  | agreed
  | beyond (found : Ordinal)
  | exhausted
  deriving DecidableEq

/-- Asks lists for a candidate, one after the other, up to the first one that does not have it. -/
def sweep (candidate : Ordinal) : List Cursor → List Cursor × Verdict
  | [] => ([], .agreed)
  | c :: rest =>
    let moved := c.seek candidate
    match moved.ordinal? with
    | none => (moved :: rest, .exhausted)
    | some found =>
      if found = candidate then
        let (others, verdict) := sweep candidate rest
        (moved :: others, verdict)
      else (moved :: rest, .beyond found)

theorem lt_of_sweep_beyond {candidate found : Ordinal} {cursors moved : List Cursor}
    (h : sweep candidate cursors = (moved, .beyond found)) : candidate < found := by
  induction cursors generalizing moved with
  | nil => simp [sweep] at h
  | cons c rest ih =>
    simp only [sweep] at h
    split at h
    · simp at h
    · rename_i o ho
      split at h
      · cases hs : sweep candidate rest with
        | mk others verdict =>
          simp only [hs, Prod.mk.injEq] at h
          have hs' : sweep candidate rest = (others, .beyond found) := by rw [hs, h.2]
          exact ih hs'
      · rename_i hne
        simp only [Prod.mk.injEq, Verdict.beyond.injEq] at h
        have hle := Cursor.le_of_ordinal?_seek ho
        rw [← h.2]
        exact UInt32.lt_of_le_of_ne hle (fun he => hne he.symm)

def settle (first : Cursor) (candidate : Ordinal) (others : List Cursor) :
    List Cursor × Option Ordinal :=
  match _h : sweep candidate others with
  | (others, .agreed) => (first :: others, some candidate)
  | (others, .exhausted) => (first :: others, none)
  | (others, .beyond found) =>
    match _hf : (first.seek found).ordinal? with
    | none => (first.seek found :: others, none)
    | some next => settle (first.seek found) next others
termination_by UInt32.size - candidate.toNat
decreasing_by
  have h₁ := UInt32.lt_iff_toNat_lt.mp (lt_of_sweep_beyond _h)
  have h₂ := UInt32.le_iff_toNat_le.mp (Cursor.le_of_ordinal?_seek _hf)
  have h₃ := next.toNat_lt
  simp only [UInt32.size] at *
  omega

/-- Moves cursors to the first ordinal from `id` on that all of them have, if there is one. -/
def seekAll (id : Ordinal) : List Cursor → List Cursor × Option Ordinal
  | [] => ([], none)
  | first :: others =>
    let moved := first.seek id
    match moved.ordinal? with
    | none => (moved :: others, none)
    | some candidate => settle moved candidate others

theorem le_of_settle {first : Cursor} {candidate d : Ordinal} {others moved : List Cursor}
    (h : settle first candidate others = (moved, some d)) : candidate ≤ d := by
  fun_induction settle first candidate others with
  | case1 => simp_all
  | case2 => simp_all
  | case3 => simp_all
  | case4 first candidate others others' found hs next hn ih =>
    have h₁ := lt_of_sweep_beyond hs
    have h₂ := Cursor.le_of_ordinal?_seek hn
    exact UInt32.le_trans (UInt32.le_of_lt h₁) (UInt32.le_trans h₂ (ih h))

theorem le_of_seekAll {id d : Ordinal} {cursors moved : List Cursor}
    (h : seekAll id cursors = (moved, some d)) : id ≤ d := by
  cases cursors with
  | nil => simp [seekAll] at h
  | cons first others =>
    simp only [seekAll] at h
    split at h
    · simp at h
    · rename_i candidate hc
      exact UInt32.le_trans (Cursor.le_of_ordinal?_seek hc) (le_of_settle h)

/-- The cursors of all lists, and the ordinal from which the enumeration goes on; none at its
end. -/
structure Intersection where
  cursors : List Cursor
  upcoming : Option Ordinal
  deriving DecidableEq, Repr

namespace Intersection

/-- The intersection of some lists. No lists share no document. -/
def ofLists (lists : List PostingList) : Intersection where
  cursors := lists.map Cursor.ofList
  upcoming := if lists.isEmpty then none else some 0

def ofTerms (index : LoadedIndex) (terms : List Term) : Intersection :=
  ofLists (terms.map index.postingsOf)

/-- The first shared ordinal from `id` on. Any ordinal may be asked for at any time. -/
def seek (i : Intersection) (id : Ordinal) : Intersection × Option Ordinal :=
  let (cursors, found) := seekAll id i.cursors
  ({ i with cursors := cursors }, found)

def current (i : Intersection) : PostingList := i.cursors.filterMap Cursor.current?

def next (i : Intersection) : Intersection × Option Ordinal :=
  match i.upcoming with
  | none => (i, none)
  | some id =>
    let (i, found) := i.seek id
    ({ i with upcoming := found.bind Ordinal.next? }, found)

def remaining (i : Intersection) : Nat :=
  match i.upcoming with
  | none => 0
  | some id => UInt32.size - id.toNat

theorem remaining_next_lt {i j : Intersection} {d : Ordinal} (h : i.next = (j, some d)) :
    j.remaining < i.remaining := by
  unfold next at h
  split at h
  · simp at h
  · rename_i id hu
    cases hs : seekAll id i.cursors with
    | mk cursors found =>
      simp only [seek, hs, Prod.mk.injEq] at h
      obtain ⟨hj, hf⟩ := h
      subst hf
      have hle := UInt32.le_iff_toNat_le.mp (le_of_seekAll hs)
      have hd := d.toNat_lt
      have hid := id.toNat_lt
      simp only [remaining, hu, ← hj, Option.bind_some, Ordinal.next?, UInt32.size] at *
      split
      · omega
      · rename_i n hn
        split at hn
        · rename_i hlt
          simp only [Option.some.injEq] at hn
          subst hn
          rw [UInt32.toNat_add]
          simp only [UInt32.reduceToNat]
          omega
        · simp at hn

/-- All shared ordinals from here on, in ascending order. -/
def toList (i : Intersection) : List Ordinal :=
  match _h : i.next with
  | (_, none) => []
  | (j, some d) => d :: toList j
termination_by i.remaining
decreasing_by exact remaining_next_lt _h

end Intersection

end TextSearch
