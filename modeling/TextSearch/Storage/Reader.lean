import TextSearch.Decimal.Binary
import TextSearch.Error
import TextSearch.LittleEndian
import TextSearch.Utf8

/-!
# Reading bytes

A reader stands at some place of a file. It never trusts a declared length: a read that needs more
bytes than are left fails and leaves the reader where it was.
-/

namespace TextSearch.Storage

/-- The first `n` elements and the others, if there are as many. -/
def splitExactly {α : Type} : Nat → List α → Option (List α × List α)
  | 0, xs => some ([], xs)
  | _ + 1, [] => none
  | n + 1, x :: xs => (splitExactly n xs).map fun r => (x :: r.1, r.2)

theorem splitExactly_eq_some {α : Type} {n : Nat} {xs : List α} {r : List α × List α} :
    splitExactly n xs = some r ↔ xs = r.1 ++ r.2 ∧ r.1.length = n := by
  induction n generalizing xs r with
  | zero =>
    obtain ⟨head, tail⟩ := r
    cases head <;> simp [splitExactly, eq_comm]
  | succ n ih =>
    obtain ⟨head, tail⟩ := r
    cases xs with
    | nil => cases head <;> simp [splitExactly]
    | cons x xs =>
      simp only [splitExactly, Option.map_eq_some_iff]
      constructor
      · rintro ⟨s, hs, he⟩
        obtain ⟨h₁, h₂⟩ := ih.mp hs
        simp only [Prod.mk.injEq] at he
        simp [← he.1, ← he.2, h₁, h₂]
      · rintro ⟨h₁, h₂⟩
        cases head with
        | nil => simp at h₂
        | cons y head =>
          simp only [List.cons_append, List.cons.injEq] at h₁
          exact ⟨(head, tail), ih.mpr ⟨h₁.2, by simpa using h₂⟩, by simp [h₁.1]⟩

theorem splitExactly_eq_none {α : Type} {n : Nat} {xs : List α} :
    splitExactly n xs = none ↔ xs.length < n := by
  induction n generalizing xs with
  | zero => simp [splitExactly]
  | succ n ih => cases xs <;> simp [splitExactly, ih]

/-- The bytes of a file from some place on. The path serves messages only. -/
structure Reader where
  path : String
  offset : Nat
  rest : List UInt8
  deriving DecidableEq, Repr

/-- What reading gives: a value and the reader after it. -/
abbrev Read (α : Type) := Reader → Except SearchError (α × Reader)

namespace Reader

def ofBytes (path : String) (bytes : List UInt8) : Reader := ⟨path, 0, bytes⟩

def isEmpty (r : Reader) : Bool := r.rest.isEmpty

/-- Reads `n` bytes. -/
def bytes (n : Nat) : Read (List UInt8) := fun r =>
  match splitExactly n r.rest with
  | some (taken, rest) => .ok (taken, ⟨r.path, r.offset + n, rest⟩)
  | none => .error (.truncated r.path r.offset n)

theorem bytes_eq_ok_iff {n : Nat} {r after : Reader} {taken : List UInt8} :
    bytes n r = .ok (taken, after) ↔
      r.rest = taken ++ after.rest ∧ taken.length = n ∧ after.path = r.path ∧ after.offset = r.offset + n := by
  obtain ⟨path, offset, rest⟩ := after
  unfold bytes
  cases h : splitExactly n r.rest with
  | none =>
    have hfew := splitExactly_eq_none.mp h
    simp only [reduceCtorEq, false_iff]
    rintro ⟨hrest, hlength, -, -⟩
    rw [hrest, List.length_append] at hfew
    omega
  | some split =>
    obtain ⟨hrest, hlength⟩ := splitExactly_eq_some.mp h
    constructor
    · intro he
      cases he
      exact ⟨hrest, hlength, rfl, rfl⟩
    · rintro ⟨hrest', hlength', rfl, rfl⟩
      obtain ⟨rfl, rfl⟩ := List.append_inj (hrest.symm.trans hrest') (hlength.trans hlength'.symm)
      rfl

theorem bytes_eq_error_iff {n : Nat} {r : Reader} {e : SearchError} :
    bytes n r = .error e ↔ r.rest.length < n ∧ e = .truncated r.path r.offset n := by
  unfold bytes
  rw [← splitExactly_eq_none]
  cases splitExactly n r.rest with
  | none => simp [eq_comm]
  | some split => simp

/-- Reads the number that `width` bytes stand for. -/
def number (width : Nat) : Read Nat := fun r => do
  let (taken, r) ← bytes width r
  return (LittleEndian.decode taken, r)

def byte : Read UInt8 := fun r => do
  let (n, r) ← number 1 r
  return (UInt8.ofNat n, r)

/-- Reads a word of 32 bits. -/
def word32 : Read UInt32 := fun r => do
  let (n, r) ← number 4 r
  return (UInt32.ofNat n, r)

/-- Reads a word of 64 bits. -/
def word64 : Read UInt64 := fun r => do
  let (n, r) ← number 8 r
  return (UInt64.ofNat n, r)

/-- Reads a float of 32 bits. -/
def single : Read Decimal.Single := fun r => do
  let (bits, r) ← word32 r
  return (⟨bits⟩, r)

def text (r : Reader) (bytes : List UInt8) : Except SearchError String :=
  match Utf8.decode bytes with
  | .ok s => .ok s
  | .error fault =>
    .error (.corruptRecord s!"invalid UTF-8 in {r.path} before offset {r.offset}: {fault.message}")

def many {α : Type} (read : Read α) : Nat → Read (List α)
  | 0 => fun r => .ok ([], r)
  | n + 1 => fun r => do
    let (x, r) ← read r
    let (xs, r) ← many read n r
    return (x :: xs, r)

end Reader

end TextSearch.Storage
