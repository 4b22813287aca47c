import Mathlib.Algebra.Order.Field.Power
import TextSearch.Proofs.Rounding

/-!
# Nearest floats

A quotient is rounded to a float of 32 bits that no other is nearer to. Below 16 it is less than half a millionth away.
-/

namespace TextSearch.Proofs
open Decimal

/-- The finite values of the format with 32 bits: 24 bits with a sign, times a power of two. -/
def IsSingle (y : ℚ) : Prop := ∃ (c : ℤ) (i : Nat), |c| < 2 ^ 24 ∧ i ≤ 253 ∧ y = c * 2 ^ i / 2 ^ 149

/-- The value that bits without a sign denote. -/
def singleValue (bits : Nat) : ℚ := binary32.numerator bits / 2 ^ 149

lemma isSingle_singleValue {bits : Nat} (h : bits < binary32.infinity) : IsSingle (singleValue bits) := by
  have hinfinity : binary32.infinity = 255 * 2 ^ 23 := rfl
  have hstep : binary32.step = 2 ^ 23 := rfl
  have hsignificand : binary32.significand bits < 2 ^ 24 := by
    unfold BinaryFormat.significand
    rw [hstep]
    split_ifs <;> omega
  have hscale : binary32.scale bits ≤ 253 := by
    unfold BinaryFormat.scale
    rw [hstep]
    omega
  refine ⟨binary32.significand bits, binary32.scale bits, ?_, hscale, ?_⟩
  · rw [Nat.abs_cast]
    exact_mod_cast hsignificand
  · unfold singleValue BinaryFormat.numerator
    rw [twoTo_eq]
    push_cast
    rfl

section Single

variable {num den s r : Nat} {x : ℚ}

/-- What is less than half a unit beyond the largest value does not become infinite. -/
lemma Rounded.finite (h : Rounded binary32 x s r) (hx : x < (2 ^ 24 - 1 / 2) * 2 ^ 253) :
    s * binary32.step + r < binary32.infinity := by
  have hinfinity : binary32.infinity = 255 * 2 ^ 23 := rfl
  have hstep : binary32.step = 2 ^ 23 := rfl
  have hhigh := (h.significand (by decide)).1
  have hs : s ≤ 253 := by
    by_contra hlarge
    have hbeyond : (2 : ℚ) ^ 24 * 2 ^ 253 ≤ 2 ^ (23 + s) := by
      rw [← pow_add]
      exact pow_le_pow_right₀ (by norm_num) (by omega)
    have habove : (2 : ℚ) ^ (23 + s) ≤ x := h.above (by omega)
    linarith
  rw [hstep] at hhigh ⊢
  rcases Nat.lt_or_ge s 253 with hlow | htop
  · omega
  · obtain rfl : s = 253 := le_antisymm hs htop
    have hquot : x / 2 ^ 253 < 2 ^ 24 - 1 / 2 := (div_lt_iff₀ (by positivity)).mpr hx
    have hlt : (r : ℚ) < (2 ^ 24 : Nat) := by
      have hhalf := (abs_le.mp h.half).2
      push_cast
      linarith
    have hlt : r < 2 ^ 24 := by exact_mod_cast hlt
    omega

lemma exists_rounded_single (num : Nat) (hden : 0 < den) :
    ∃ s r, Rounded binary32 (num / den * 2 ^ 149) s r ∧
      binary32.round num den = min binary32.infinity (s * binary32.step + r) := by
  have hsame : (num / den * 2 ^ 149 : ℚ) = num * 2 ^ 149 / den := by ring
  rw [hsame]
  exact exists_rounded binary32 (by decide) num hden

lemma Rounded.singleValue_sub (h : Rounded binary32 (x * 2 ^ 149) s r) :
    singleValue (s * binary32.step + r) - x = (r * 2 ^ s - x * 2 ^ 149) / 2 ^ 149 := by
  unfold singleValue
  rw [h.numerator (by decide)]
  push_cast
  field_simp

/-- The float that a quotient is rounded to is finite if any is near, and no other is nearer. -/
lemma round_nearest (hden : 0 < den) {y : ℚ} (hy : IsSingle y) (hnear : |y - num / den| < 1) :
    binary32.round num den < binary32.infinity ∧
      |singleValue (binary32.round num den) - num / den| ≤ |y - num / den| := by
  obtain ⟨s, r, hrounded, hround⟩ := exists_rounded_single num hden
  obtain ⟨c, i, hc, hi, rfl⟩ := hy
  have hx : (num / den * 2 ^ 149 : ℚ) < (2 ^ 24 - 1 / 2) * 2 ^ 253 := by
    have hsmall : (c : ℚ) * 2 ^ i ≤ (2 ^ 24 - 1) * 2 ^ 253 := by
      have hc : (c : ℚ) ≤ 2 ^ 24 - 1 := by
        have hle : c ≤ 2 ^ 24 - 1 := by
          have habs := le_abs_self c
          omega
        exact_mod_cast hle
      have hi : (2 : ℚ) ^ i ≤ 2 ^ 253 := pow_le_pow_right₀ (by norm_num) hi
      exact mul_le_mul hc hi (by positivity) (by norm_num)
    have hdiff := (abs_lt.mp hnear).1
    have hone : (num / den : ℚ) < c * 2 ^ i / 2 ^ 149 + 1 := by linarith
    have hscaled := mul_lt_mul_of_pos_right hone (by positivity : (0 : ℚ) < 2 ^ 149)
    rw [add_mul, div_mul_cancel₀ _ (by positivity : (2 : ℚ) ^ 149 ≠ 0)] at hscaled
    norm_num at hscaled hsmall ⊢
    linarith
  have hfinite := hrounded.finite hx
  rw [hround, min_eq_right hfinite.le]
  refine ⟨hfinite, ?_⟩
  have hpos : (0 : ℚ) < 2 ^ 149 := by positivity
  have hother : (c : ℚ) * 2 ^ i / 2 ^ 149 - num / den = (c * 2 ^ i - num / den * 2 ^ 149) / 2 ^ 149 := by
    field_simp
  rw [hrounded.singleValue_sub, hother, abs_div, abs_div]
  have hbound : c < 2 ^ 24 := (le_abs_self c).trans_lt hc
  exact div_le_div_of_nonneg_right (hrounded.nearest_scaled (by decide) hbound i) (abs_nonneg _)

/-- Below 16 half a unit of the last bit is less than half a millionth. -/
lemma exists_isSingle_near (hden : 0 < den) (hx : (num / den : ℚ) < 16) :
    ∃ y, IsSingle y ∧ |y - num / den| < 1 / (2 * 10 ^ 6) := by
  obtain ⟨s, r, hrounded, -⟩ := exists_rounded_single num hden
  have hscaled : (num / den * 2 ^ 149 : ℚ) < 2 ^ 153 := by
    norm_num
    linarith
  have hs : s ≤ 129 := by
    by_contra hlarge
    have hbeyond : (2 : ℚ) ^ 153 ≤ 2 ^ (23 + s) := pow_le_pow_right₀ (by norm_num) (by omega)
    have habove : (2 : ℚ) ^ (23 + s) ≤ num / den * 2 ^ 149 := hrounded.above (by omega)
    linarith
  have hfinite := hrounded.finite (hscaled.trans (by norm_num))
  refine ⟨_, isSingle_singleValue hfinite, ?_⟩
  have hunit : (2 : ℚ) ^ s ≤ 2 ^ 129 := pow_le_pow_right₀ (by norm_num) hs
  have herror := hrounded.abs_sub_le
  rw [hrounded.singleValue_sub, abs_div, abs_of_pos (by positivity : (0 : ℚ) < 2 ^ 149), div_lt_iff₀ (by positivity)]
  norm_num at hunit herror ⊢
  linarith

lemma IsSingle.lt {y : ℚ} (h : IsSingle y) : y < 2 ^ 128 := by
  obtain ⟨c, i, hc, hi, rfl⟩ := h
  have hc : (c : ℚ) < 2 ^ 24 := by exact_mod_cast (le_abs_self c).trans_lt hc
  have hi : (2 : ℚ) ^ i ≤ 2 ^ 253 := pow_le_pow_right₀ (by norm_num) hi
  have hproduct : (c : ℚ) * 2 ^ i < 2 ^ 24 * 2 ^ 253 :=
    (mul_lt_mul_of_pos_right hc (by positivity)).trans_le (mul_le_mul_of_nonneg_left hi (by norm_num))
  rw [div_lt_iff₀ (by positivity)]
  refine hproduct.trans_eq ?_
  rw [← pow_add, ← pow_add]

section Decimals

variable {digits : Nat} {exponent : Int}

/-- A decimal number near a float of 32 bits has no large exponent. -/
lemma exponent_lt_of_near (hne : digits ≠ 0) {y : ℚ} (hy : IsSingle y) (hnear : |y - digits * 10 ^ exponent| < 1) :
    exponent < 40 := by
  by_contra hexponent
  have hdigits : (1 : ℚ) ≤ digits := by exact_mod_cast Nat.one_le_iff_ne_zero.mpr hne
  have hpower : (10 : ℚ) ^ (40 : Int) ≤ 10 ^ exponent := zpow_le_zpow_right₀ (by norm_num) (by omega)
  have hproduct : (10 : ℚ) ^ exponent ≤ digits * 10 ^ exponent := le_mul_of_one_le_left (by positivity) hdigits
  have hdiff := (abs_lt.mp hnear).1
  have hlt := hy.lt
  norm_num at hpower hlt
  linarith

/-- A decimal number that is not tiny has enough digits for its exponent. -/
lemma lt_exponent_of_le (hlow : 1 / 10 ^ 6 ≤ (digits * 10 ^ exponent : ℚ)) :
    -7 < exponent + ((digits.log2 + 1 : Nat) : Int) := by
  by_contra hexponent
  have hdigits : (digits : ℚ) ≤ 10 ^ ((digits.log2 + 1 : Nat) : Int) := by
    have hlog : digits ≤ 10 ^ (digits.log2 + 1) := Nat.lt_log2_self.le.trans (Nat.pow_le_pow_left (by decide) _)
    rw [zpow_natCast]
    exact_mod_cast hlog
  have hproduct : (digits * 10 ^ exponent : ℚ) ≤ 10 ^ (exponent + ((digits.log2 + 1 : Nat) : Int)) := by
    rw [zpow_add₀ (by norm_num), mul_comm]
    exact mul_le_mul_of_nonneg_left hdigits (by positivity)
  have hpower : (10 : ℚ) ^ (exponent + ((digits.log2 + 1 : Nat) : Int)) ≤ 10 ^ (-7 : Int) :=
    zpow_le_zpow_right₀ (by norm_num) (by omega)
  have htiny : (10 : ℚ) ^ (-7 : Int) < 1 / 10 ^ 6 := by norm_num
  exact absurd hlow (not_le.mpr ((hproduct.trans hpower).trans_lt htiny))

/-- The same holds of decimal numbers, as the exponents that are passed over are out of range. -/
lemma ofDecimal_nearest (hlow : 1 / 10 ^ 6 ≤ (digits * 10 ^ exponent : ℚ)) {y : ℚ} (hy : IsSingle y)
    (hnear : |y - digits * 10 ^ exponent| < 1) :
    binary32.ofDecimal digits exponent < binary32.infinity ∧
      |singleValue (binary32.ofDecimal digits exponent) - digits * 10 ^ exponent| ≤ |y - digits * 10 ^ exponent| := by
  have hne : digits ≠ 0 := by
    rintro rfl
    norm_num at hlow
  have hlarge := exponent_lt_of_near hne hy hnear
  have hsmall := lt_exponent_of_le hlow
  unfold BinaryFormat.ofDecimal
  rw [if_neg hne, if_neg (by omega), if_neg (by omega)]
  split_ifs with hsign
  · have hquotient : (digits * 10 ^ exponent : ℚ) = (digits * tenTo exponent.toNat : Nat) / (1 : Nat) := by
      rw [tenTo_eq]
      conv_lhs => rw [← Int.toNat_of_nonneg hsign, zpow_natCast]
      push_cast
      ring
    rw [hquotient] at hnear ⊢
    exact round_nearest Nat.one_pos hy hnear
  · have hquotient : (digits * 10 ^ exponent : ℚ) = digits / (tenTo (-exponent).toNat : Nat) := by
      have hexponent : exponent = -((-exponent).toNat : Int) := by omega
      rw [tenTo_eq]
      conv_lhs => rw [hexponent, zpow_neg, zpow_natCast]
      push_cast
      rfl
    rw [hquotient] at hnear ⊢
    exact round_nearest (tenTo_pos _) hy hnear

end Decimals

end Single

end TextSearch.Proofs
