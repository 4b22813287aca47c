import TextSearch.Posting

/-!
# Cursors

A cursor stands between the postings of an ascending list. Looking for a later ordinal goes on from
there; looking for an earlier one starts again.
-/

namespace TextSearch

/-- A place in a posting list: the postings before it, the nearest one first, and those from it
on. -/
structure Cursor where
  before : PostingList
  rest : PostingList
  deriving DecidableEq, Repr

namespace Cursor

def ofList (postings : PostingList) : Cursor := ⟨[], postings⟩

def postings (c : Cursor) : PostingList := c.before.reverse ++ c.rest

def position (c : Cursor) : Nat := c.before.length

def current? (c : Cursor) : Option Posting := c.rest.head?

def ordinal? (c : Cursor) : Option Ordinal := c.current?.map Posting.ordinal

def isPast (c : Cursor) (target : Ordinal) : Bool :=
  c.before.head?.any fun p => target ≤ p.ordinal

def origin (c : Cursor) (target : Ordinal) : Cursor :=
  if c.isPast target then ofList c.postings else c

def advance (target : Ordinal) (before : PostingList) : PostingList → Cursor
  | [] => ⟨before, []⟩
  | p :: rest => if p.ordinal < target then advance target (p :: before) rest else ⟨before, p :: rest⟩

/-- Moves to the first posting from the origin on whose ordinal is not below a target. -/
def seek (c : Cursor) (target : Ordinal) : Cursor :=
  let start := c.origin target
  advance target start.before start.rest

@[simp] theorem postings_ofList (ps : PostingList) : (ofList ps).postings = ps := by
  simp [ofList, postings]

@[simp] theorem postings_advance (target : Ordinal) (before rest : PostingList) :
    (advance target before rest).postings = before.reverse ++ rest := by
  induction rest generalizing before with
  | nil => simp [advance, postings]
  | cons p rest ih =>
    unfold advance
    split
    · simp [ih]
    · simp [postings]

@[simp] theorem postings_seek (c : Cursor) (target : Ordinal) :
    (c.seek target).postings = c.postings := by
  simp only [seek, postings_advance]
  unfold origin
  split
  · exact postings_ofList _
  · rfl

theorem le_of_ordinal?_advance {target o : Ordinal} {before rest : PostingList}
    (h : (advance target before rest).ordinal? = some o) : target ≤ o := by
  induction rest generalizing before with
  | nil => simp [advance, ordinal?, current?] at h
  | cons p rest ih =>
    unfold advance at h
    split at h
    · exact ih h
    · rename_i hp
      simp only [ordinal?, current?, List.head?_cons, Option.map_some, Option.some.injEq] at h
      exact h ▸ UInt32.not_lt.mp hp

theorem le_of_ordinal?_seek {c : Cursor} {target o : Ordinal}
    (h : (c.seek target).ordinal? = some o) : target ≤ o :=
  le_of_ordinal?_advance h

end Cursor

end TextSearch
