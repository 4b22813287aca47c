import Mathlib.Data.List.Induction
import Mathlib.Data.List.TakeWhile
import Mathlib.Data.Nat.Digits.Defs
import Mathlib.Tactic.Lemma
import TextSearch.Decimal.Numeral
import TextSearch.Unicode.Blank

/-!
# Digits of numbers

The decimal digits of a number denote it, and the first of them is zero only if the number is.
-/

namespace TextSearch.Proofs
open Decimal

lemma isDigit_eq (c : Char) : isDigit c = c.isDigit := rfl

lemma isDigit_of_mem_toDigits {n : Nat} {c : Char} (h : c ∈ Nat.toDigits 10 n) : isDigit c = true :=
  Nat.isDigit_of_mem_toDigits (by decide) (by decide) h

lemma toList_toString (n : Nat) : (toString n).toList = Nat.toDigits 10 n := Nat.toList_repr

lemma isDigit_of_mem_toString {n : Nat} {c : Char} (h : c ∈ (toString n).toList) : isDigit c = true := by
  rw [toList_toString] at h
  exact isDigit_of_mem_toDigits h

lemma isDigit_digitChar {d : Nat} (h : d < 10) : isDigit d.digitChar = true := by
  rw [isDigit_eq, Nat.isDigit_digitChar, decide_eq_true_eq]
  exact h

/-- A text starts with digits, as many as there are. -/
lemma exists_digits (cs : List Char) : ∃ digits rest, (∀ c ∈ digits, isDigit c = true) ∧ cs = digits ++ rest ∧
    ∀ c ∈ rest.head?, isDigit c = false := by
  refine ⟨cs.takeWhile isDigit, cs.dropWhile isDigit, fun c hc => List.mem_takeWhile_imp hc,
    List.takeWhile_append_dropWhile.symm, fun c hc => ?_⟩
  have hnot := List.head?_dropWhile_not isDigit cs
  rw [Option.mem_def.mp hc] at hnot
  simpa using hnot

lemma toNat_zero_char : '0'.toNat = 48 := by decide

lemma isBlank_of_isDigit {c : Char} (h : isDigit c = true) : Unicode.isBlank c = false := by
  simp only [isDigit, Bool.and_eq_true, decide_eq_true_eq] at h
  have hlow : 48 ≤ c.toNat := h.1
  have hhigh : c.toNat ≤ 57 := h.2
  simp [Unicode.isBlank, Unicode.blankRanges, Unicode.Ranges.covers]
  omega

lemma le_toNat_of_isDigit {c : Char} (h : isDigit c = true) : '0'.toNat ≤ c.toNat := by
  simp only [isDigit, Bool.and_eq_true, decide_eq_true_eq] at h
  exact h.1

lemma digitValue_le {c : Char} (h : isDigit c = true) : c.toNat - '0'.toNat ≤ 9 := by
  have hc : c.toNat ≤ 57 := by
    simp only [isDigit, Bool.and_eq_true, decide_eq_true_eq] at h
    exact h.2
  rw [toNat_zero_char]
  omega

lemma digitsValue_append (acc : Nat) (xs ys : List Char) :
    digitsValue acc (xs ++ ys) = digitsValue (digitsValue acc xs) ys := by
  induction xs generalizing acc with
  | nil => rfl
  | cons x xs ih => exact ih _

lemma digitsValue_singleton (acc : Nat) (c : Char) : digitsValue acc [c] = acc * 10 + (c.toNat - '0'.toNat) := rfl

/-- The values of digits from the last one on. -/
def placeValues (digits : List Char) : List Nat := digits.reverse.map fun c => c.toNat - '0'.toNat

/-- Digits denote the sum of their place values. -/
lemma digitsValue_eq_ofDigits (digits : List Char) : digitsValue 0 digits = Nat.ofDigits 10 (placeValues digits) := by
  -- from the back, as the last digit has the lowest place
  induction digits using List.reverseRecOn with
  | nil => rfl
  | append_singleton digits c ih =>
    have hlast : placeValues (digits ++ [c]) = (c.toNat - '0'.toNat) :: placeValues digits := by
      unfold placeValues
      rw [List.reverse_append, List.reverse_singleton, List.singleton_append, List.map_cons]
    rw [digitsValue_append, ih, digitsValue_singleton, hlast, Nat.ofDigits_cons, Nat.mul_comm, Nat.add_comm]

lemma digitsValue_digitChar (acc : Nat) {d : Nat} (h : d < 10) :
    digitsValue acc [d.digitChar] = acc * 10 + d := by
  have hvalue := Nat.toNat_digitChar_sub_48_of_lt_ten h
  unfold digitsValue digitsValue
  rw [toNat_zero_char, hvalue]

lemma digitsValue_toDigits (n : Nat) : digitsValue 0 (Nat.toDigits 10 n) = n := by
  induction n using Nat.strongRecOn with
  | ind n ih =>
    by_cases hlt : n < 10
    · rw [Nat.toDigits_of_lt_base hlt, digitsValue_digitChar 0 hlt]
      omega
    · have hdigit : n % 10 < 10 := Nat.mod_lt n (by decide)
      rw [Nat.toDigits_of_base_le (by decide) (Nat.le_of_not_lt hlt), digitsValue_append,
        ih (n / 10) (by omega), digitsValue_digitChar _ hdigit]
      omega

/-- As many digits with the same value are the same digits. -/
lemma eq_of_digitsValue_eq {xs ys : List Char} (hxs : ∀ c ∈ xs, isDigit c = true) (hys : ∀ c ∈ ys, isDigit c = true)
    (hlength : xs.length = ys.length) (h : digitsValue 0 xs = digitsValue 0 ys) : xs = ys := by
  induction xs using List.reverseRecOn generalizing ys with
  | nil => exact (List.length_eq_zero_iff.mp hlength.symm).symm
  | append_singleton xs c ih =>
    rcases List.eq_nil_or_concat ys with rfl | ⟨ys, d, rfl⟩
    · simp at hlength
    · rw [List.concat_eq_append] at *
      obtain ⟨hxs, hc⟩ := List.forall_mem_append.mp hxs
      obtain ⟨hys, hd⟩ := List.forall_mem_append.mp hys
      have hlast : isDigit c = true := hc c List.mem_cons_self
      have hlast' : isDigit d = true := hd d List.mem_cons_self
      have hvalue := digitValue_le hlast
      have hvalue' := digitValue_le hlast'
      rw [digitsValue_append, digitsValue_append, digitsValue_singleton, digitsValue_singleton] at h
      have hsame : c = d := by
        apply Char.toNat_inj.mp
        have hlow := le_toNat_of_isDigit hlast
        have hlow' := le_toNat_of_isDigit hlast'
        omega
      rw [ih hxs hys (by simpa using hlength) (by omega), hsame]

/-- A number that is not zero starts with a digit that is not zero. -/
lemma toDigits_eq_cons {n : Nat} (h : 0 < n) :
    ∃ d rest, 0 < d ∧ d < 10 ∧ Nat.toDigits 10 n = d.digitChar :: rest := by
  induction n using Nat.strongRecOn with
  | ind n ih =>
    by_cases hlt : n < 10
    · exact ⟨n, [], h, hlt, Nat.toDigits_of_lt_base hlt⟩
    · obtain ⟨d, rest, hpos, hd, hrest⟩ := ih (n / 10) (by omega) (by omega)
      refine ⟨d, rest ++ [(n % 10).digitChar], hpos, hd, ?_⟩
      rw [Nat.toDigits_of_base_le (by decide) (Nat.le_of_not_lt hlt), hrest, List.cons_append]

end TextSearch.Proofs
