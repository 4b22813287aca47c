import Mathlib.Algebra.Order.Field.Basic
import Mathlib.Algebra.Order.Ring.Rat
import Mathlib.Tactic.FieldSimp
import Mathlib.Tactic.Lemma
import Mathlib.Tactic.Linarith
import Mathlib.Tactic.Ring
import TextSearch.Decimal.Binary

/-!
# Rounding

A quotient is rounded to the nearest multiple of a power of two. The power is so great that a significand holds the
multiple with all its bits, and no product of a significand and a power of two is nearer.
-/

namespace TextSearch.Proofs
open Decimal

lemma twoTo_eq (n : Nat) : twoTo n = 2 ^ n := rfl

lemma tenTo_eq (n : Nat) : tenTo n = 10 ^ n := rfl

/-! ### Whole numbers -/

section Whole

variable {num den : Nat}

lemma abs_roundDiv_sub_le (num : Nat) (hden : 0 < den) : |(roundDiv num den : ℚ) - num / den| ≤ 1 / 2 := by
  have hsplit : num = den * (num / den) + num % den := (Nat.div_add_mod num den).symm
  have hdiff : |2 * (roundDiv num den : ℤ) * den - 2 * num| ≤ den := by
    have hlt : num % den < den := Nat.mod_lt num hden
    unfold roundDiv
    dsimp only
    generalize num / den = q at hsplit
    generalize num % den = r at hsplit hlt
    subst hsplit
    rw [abs_le]
    have hparity : q % 2 = 0 ∨ q % 2 = 1 := Nat.mod_two_eq_zero_or_one q
    split_ifs with hlow hhigh
    · push_cast
      constructor <;> nlinarith
    · push_cast
      constructor <;> nlinarith
    · rcases hparity with heven | hodd
      · rw [heven]
        push_cast
        constructor <;> nlinarith
      · rw [hodd]
        push_cast
        constructor <;> nlinarith
  have hpos : (0 : ℚ) < den := Nat.cast_pos.mpr hden
  have hscaled : (roundDiv num den : ℚ) - num / den = (2 * (roundDiv num den : ℤ) * den - 2 * num : ℤ) / (2 * den) := by
    push_cast
    field_simp
  have hcast : |((2 * (roundDiv num den : ℤ) * den - 2 * num : ℤ) : ℚ)| ≤ den := by
    exact_mod_cast hdiff
  rw [hscaled, abs_div, abs_of_pos (by positivity : (0 : ℚ) < 2 * den), div_le_div_iff₀ (by positivity) (by norm_num)]
  linarith

/-- No whole number is nearer. -/
lemma abs_roundDiv_sub_le_abs (num : Nat) (hden : 0 < den) (n : ℤ) :
    |(roundDiv num den : ℚ) - num / den| ≤ |(n : ℚ) - num / den| := by
  have hhalf := abs_roundDiv_sub_le num hden
  by_cases heq : n = roundDiv num den
  · rw [heq, Int.cast_natCast]
  · have hapart : (1 : ℚ) ≤ |n - (roundDiv num den : ℚ)| := by
      have hne : n - (roundDiv num den : ℤ) ≠ 0 := sub_ne_zero.mpr heq
      exact_mod_cast Int.one_le_abs hne
    have htriangle := abs_sub_le (n : ℚ) (num / den) (roundDiv num den)
    rw [abs_sub_comm (num / den : ℚ)] at htriangle
    linarith

lemma roundDiv_eq_of_abs_lt {k : Nat} (hden : 0 < den) (h : |(num / den : ℚ) - k| < 1 / 2) : roundDiv num den = k := by
  have hhalf := abs_roundDiv_sub_le num hden
  have htriangle := abs_sub_le (roundDiv num den : ℚ) (num / den) k
  have hlt : |((roundDiv num den : ℤ) - (k : ℤ) : ℤ)| < 1 := by
    have hlt : |(roundDiv num den : ℚ) - k| < 1 := by linarith
    exact_mod_cast hlt
  have hzero := Int.abs_lt_one_iff.mp hlt
  omega

end Whole

/-! ### Significands -/

section Format

variable {f : BinaryFormat} {num den s : Nat}

/-- The bits of a power of two and a significand denote their product, also where the significand has overflowed. -/
lemma numerator_eq {r : Nat} (hr : r ≤ 2 * f.step) (hs : 0 < s → f.step ≤ r) :
    f.numerator (s * f.step + r) = r * 2 ^ s := by
  have hstep : 0 < f.step := twoTo_pos _
  unfold BinaryFormat.numerator BinaryFormat.significand BinaryFormat.scale
  rw [twoTo_eq]
  by_cases hlow : r < f.step
  · obtain rfl : s = 0 := by
      by_contra hne
      exact absurd (hs (Nat.pos_of_ne_zero hne)) (Nat.not_le.mpr hlow)
    simp [hlow, Nat.div_eq_of_lt hlow]
  · have hge : f.step ≤ r := Nat.le_of_not_lt hlow
    have hnormal : ¬ s * f.step + r < f.step := by omega
    rw [if_neg hnormal]
    rcases Nat.lt_or_ge r (2 * f.step) with hhigh | hhigh
    · -- the first bit of the significand is not stored
      have hsplit : s * f.step + r = (r - f.step) + f.step * (s + 1) := by
        rw [Nat.mul_succ, Nat.mul_comm f.step s]
        omega
      have hrest : r - f.step < f.step := by omega
      rw [hsplit, Nat.add_mul_mod_self_left, Nat.add_mul_div_left _ _ hstep, Nat.mod_eq_of_lt hrest,
        Nat.div_eq_of_lt hrest, Nat.sub_add_cancel hge, Nat.zero_add, Nat.add_sub_cancel]
    · obtain rfl : r = 2 * f.step := le_antisymm hr hhigh
      have hsplit : s * f.step + 2 * f.step = 0 + f.step * (s + 2) := by ring
      rw [hsplit, Nat.add_mul_mod_self_left, Nat.add_mul_div_left _ _ hstep, Nat.zero_mod, Nat.zero_div, Nat.zero_add,
        Nat.zero_add]
      have hscale : s + 2 - 1 = s + 1 := by omega
      rw [hscale, pow_succ]
      ring

/-- A quotient is rounded to a multiple of a power of two. The significand holds so many, and at least half of them
unless the power is the least one. -/
structure Rounded (f : BinaryFormat) (x : ℚ) (s r : Nat) : Prop where
  below : x < 2 ^ (f.precision + s)
  above : 0 < s → 2 ^ (f.precision - 1 + s) ≤ x
  nearest : ∀ n : ℤ, |(r : ℚ) - x / 2 ^ s| ≤ |(n : ℚ) - x / 2 ^ s|
  half : |(r : ℚ) - x / 2 ^ s| ≤ 1 / 2

lemma exists_rounded (f : BinaryFormat) (hf : 0 < f.precision) (num : Nat) (hden : 0 < den) :
    ∃ s r, Rounded f (num * 2 ^ f.lowest / den) s r ∧ f.round num den = min f.infinity (s * f.step + r) := by
  let q := num * twoTo f.lowest / den
  let s := q.log2 + 1 - f.precision
  have hpos : (0 : ℚ) < den := Nat.cast_pos.mpr hden
  have hscaled : (num * 2 ^ f.lowest : ℚ) = (num * twoTo f.lowest : Nat) := by
    rw [twoTo_eq]
    push_cast
    rfl
  have hquotient : (num * 2 ^ f.lowest / den / 2 ^ s : ℚ) = (num * twoTo f.lowest : Nat) / (den * twoTo s : Nat) := by
    rw [hscaled, twoTo_eq s, div_div]
    push_cast
    rfl
  have hunit : 0 < den * twoTo s := Nat.mul_pos hden (twoTo_pos s)
  refine ⟨s, roundDiv (num * twoTo f.lowest) (den * twoTo s), ⟨?below, ?above, ?nearest, ?half⟩, rfl⟩
  case below =>
    have hlog : q < 2 ^ (f.precision + s) :=
      Nat.lt_log2_self.trans_le (Nat.pow_le_pow_right (by decide) (by omega))
    have hlt := (Nat.div_lt_iff_lt_mul hden).mp hlog
    rw [hscaled, div_lt_iff₀ hpos]
    exact_mod_cast hlt
  case above =>
    intro hs
    have hne : q ≠ 0 := by
      intro hzero
      have hlog : q.log2 = 0 := by rw [hzero, Nat.log2_zero]
      omega
    have hexponent : f.precision - 1 + s = q.log2 := by omega
    have hle := (Nat.le_div_iff_mul_le hden).mp (Nat.log2_self_le hne)
    rw [hexponent, hscaled, le_div_iff₀ hpos]
    exact_mod_cast hle
  case nearest =>
    rw [hquotient]
    exact abs_roundDiv_sub_le_abs _ hunit
  case half =>
    rw [hquotient]
    exact abs_roundDiv_sub_le _ hunit

namespace Rounded

variable {x : ℚ} {r : Nat}

lemma sub_eq (x : ℚ) (s : Nat) (a : ℚ) : a * 2 ^ s - x = (a - x / 2 ^ s) * 2 ^ s := by
  field_simp

lemma significand (h : Rounded f x s r) (hf : 0 < f.precision) : r ≤ 2 * f.step ∧ (0 < s → f.step ≤ r) := by
  have hunit : (0 : ℚ) < 2 ^ s := by positivity
  have hstep : 2 * f.step = 2 ^ f.precision := by
    unfold BinaryFormat.step
    rw [twoTo_eq, ← pow_succ', Nat.sub_add_cancel hf]
  obtain ⟨hlow, hhigh⟩ := abs_le.mp h.half
  constructor
  · have hx : x / 2 ^ s < 2 ^ f.precision := by
      rw [div_lt_iff₀ hunit, ← pow_add]
      exact h.below
    have hlt : (r : ℚ) < (2 ^ f.precision + 1 : Nat) := by
      push_cast
      linarith
    have hlt : r < 2 ^ f.precision + 1 := by exact_mod_cast hlt
    omega
  · intro hs
    have hx : (2 : ℚ) ^ (f.precision - 1) ≤ x / 2 ^ s := by
      rw [le_div_iff₀ hunit, ← pow_add]
      exact h.above hs
    have hlt : ((2 ^ (f.precision - 1) : Nat) : ℚ) < (r + 1 : Nat) := by
      push_cast
      linarith
    have hlt : 2 ^ (f.precision - 1) < r + 1 := by exact_mod_cast hlt
    unfold BinaryFormat.step
    rw [twoTo_eq]
    omega

lemma numerator (h : Rounded f x s r) (hf : 0 < f.precision) : f.numerator (s * f.step + r) = r * 2 ^ s := by
  obtain ⟨hhigh, hlow⟩ := h.significand hf
  exact numerator_eq hhigh hlow

/-- Nothing that a significand and a power of two give is nearer. -/
lemma nearest_scaled (h : Rounded f x s r) (hf : 0 < f.precision) {c : ℤ} (hc : c < 2 ^ f.precision) (i : Nat) :
    |(r : ℚ) * 2 ^ s - x| ≤ |(c : ℚ) * 2 ^ i - x| := by
  have hunit : (0 : ℚ) < 2 ^ s := by positivity
  have hmultiple : ∀ n : ℤ, |(r : ℚ) * 2 ^ s - x| ≤ |(n : ℚ) * 2 ^ s - x| := by
    intro n
    rw [sub_eq, sub_eq, abs_mul, abs_mul]
    exact mul_le_mul_of_nonneg_right (h.nearest n) (abs_nonneg _)
  rcases Nat.lt_or_ge i s with hi | hi
  · -- a power that is too small reaches at most the least of the quotients that are rounded like this one
    have hs : 0 < s := Nat.zero_lt_of_lt hi
    have hleast := h.above hs
    have hreach : (c : ℚ) * 2 ^ i ≤ 2 ^ (f.precision - 1 + s) := by
      have hpow : (2 : ℚ) ^ f.precision * 2 ^ i ≤ 2 ^ (f.precision - 1 + s) := by
        rw [← pow_add]
        exact pow_le_pow_right₀ (by norm_num) (by omega)
      have hc : (c : ℚ) ≤ 2 ^ f.precision := by exact_mod_cast hc.le
      exact (mul_le_mul_of_nonneg_right hc (by positivity)).trans hpow
    have hhalf := hmultiple (2 ^ (f.precision - 1))
    push_cast at hhalf
    rw [← pow_add] at hhalf
    refine hhalf.trans ?_
    rw [abs_sub_comm, abs_of_nonneg (by linarith), abs_sub_comm, abs_of_nonneg (by linarith)]
    linarith
  · have hsplit : (c : ℚ) * 2 ^ i = (c * 2 ^ (i - s) : ℤ) * 2 ^ s := by
      push_cast
      rw [mul_assoc, ← pow_add, Nat.sub_add_cancel hi]
    rw [hsplit]
    exact hmultiple _

lemma abs_sub_le (h : Rounded f x s r) : |(r : ℚ) * 2 ^ s - x| ≤ 2 ^ s / 2 := by
  rw [sub_eq, abs_mul, abs_of_pos (by positivity : (0 : ℚ) < 2 ^ s)]
  have hhalf := mul_le_mul_of_nonneg_right h.half (by positivity : (0 : ℚ) ≤ 2 ^ s)
  linarith

end Rounded

end Format

end TextSearch.Proofs
