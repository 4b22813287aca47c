import TextSearch.Decimal.Shortest
import TextSearch.Proofs.DecimalDigits
import TextSearch.Proofs.Rounding

/-!
# Texts of large doubles

What is at least a power of two is not rounded below it. A double of at least `2 ^ 63` has a first digit of at least
`10 ^ 16`, so its text has an exponent, and one digit stands in front of its point.
-/

namespace TextSearch.Proofs
open Decimal

/-! ### Rounding -/

section Rounding

variable {num den bits k : Nat}

lemma le_log2_of_pow_le {n : Nat} (h : 2 ^ k ≤ n) : n ≠ 0 ∧ k ≤ n.log2 := by
  have hne : n ≠ 0 := (lt_of_lt_of_le (by positivity) h).ne'
  exact ⟨hne, (Nat.le_log2 hne).mpr h⟩

/-- The bits of a quotient tell the power of two that it reaches. -/
lemma le_round (hk : k ≤ 1023) (hden : 0 < den) (h : 2 ^ k * den ≤ num) :
    (k + 1023) * binary64.step ≤ binary64.round num den := by
  obtain ⟨s, r, hrounded, hround⟩ := exists_rounded binary64 (by decide) num hden
  have hreach : (2 : ℚ) ^ (k + binary64.lowest) ≤ num * 2 ^ binary64.lowest / den := by
    have hnum : 2 ^ k * den * 2 ^ binary64.lowest ≤ num * 2 ^ binary64.lowest := Nat.mul_le_mul_right _ h
    rw [le_div_iff₀ (Nat.cast_pos.mpr hden), pow_add, mul_right_comm]
    exact_mod_cast hnum
  have hs : k + 1022 ≤ s := by
    have hexponents := (pow_lt_pow_iff_right₀ (by norm_num : (1 : ℚ) < 2)).mp (hreach.trans_lt hrounded.below)
    have hlowest : binary64.lowest = 1074 := rfl
    have hprecision : binary64.precision = 53 := rfl
    omega
  have hrest : binary64.step ≤ r := (hrounded.significand (by decide)).2 (by omega)
  have hinfinity : binary64.infinity = 2047 * binary64.step := rfl
  rw [hround, hinfinity]
  refine le_min (Nat.mul_le_mul_right _ (by omega)) ?_
  calc (k + 1023) * binary64.step ≤ (s + 1) * binary64.step := Nat.mul_le_mul_right _ (by omega)
    _ = s * binary64.step + binary64.step := Nat.succ_mul _ _
    _ ≤ s * binary64.step + r := Nat.add_le_add_left hrest _

lemma step_le_significand (h : binary64.step ≤ bits) : binary64.step ≤ binary64.significand bits := by
  rw [BinaryFormat.significand, if_neg (Nat.not_lt.mpr h)]
  exact Nat.le_add_left _ _

lemma le_numerator (h : (k + 1) * binary64.step ≤ bits) : 2 ^ (52 + k) ≤ binary64.numerator bits := by
  have hstep : binary64.step ≤ bits := le_trans (Nat.le_mul_of_pos_left _ (Nat.succ_pos k)) h
  have hscale : k ≤ binary64.scale bits := by
    have hsteps : k + 1 ≤ bits / binary64.step := (Nat.le_div_iff_mul_le (by decide)).mpr h
    unfold BinaryFormat.scale
    omega
  rw [BinaryFormat.numerator, pow_add]
  exact Nat.mul_le_mul (step_le_significand hstep) (Nat.pow_le_pow_right (by decide) hscale)

lemma le_numerator_round (hk : k ≤ 1023) (hden : 0 < den) (h : 2 ^ k * den ≤ num) :
    2 ^ (k + binary64.lowest) ≤ binary64.numerator (binary64.round num den) := by
  have hround : (k + 1022 + 1) * binary64.step ≤ binary64.round num den := le_round hk hden h
  have hexponent : 52 + (k + 1022) = k + binary64.lowest := by
    have hlowest : binary64.lowest = 1074 := rfl
    omega
  rw [← hexponent]
  exact le_numerator hround

end Rounding

/-! ### Shortest digits -/

/-- The exponent of the first digit of a decimal number. -/
def lead (d : Decimal.Digits) : Int := d.exponent + ((Nat.toDigits 10 d.digits).length : Int) - 1

section Shortest

variable {i : Interval} {den k : Nat} {e : Int}

/-- A decimal number that reaches a power of ten has a first digit there or beyond. -/
lemma le_lead {d : Decimal.Digits} (h : 10 ^ k * tenTo (-d.exponent).toNat ≤ d.digits * tenTo d.exponent.toNat) :
    (k : Int) ≤ lead d := by
  have hpos : 0 < (Nat.toDigits 10 d.digits).length := Nat.length_toDigits_pos
  have hdigits : d.digits < 10 ^ (Nat.toDigits 10 d.digits).length :=
    (Nat.length_toDigits_le_iff (by decide) hpos).mp le_rfl
  have hpowers : 10 ^ (k + (-d.exponent).toNat) < 10 ^ ((Nat.toDigits 10 d.digits).length + d.exponent.toNat) := by
    rw [pow_add, pow_add]
    exact lt_of_le_of_lt h (Nat.mul_lt_mul_of_pos_right hdigits (tenTo_pos _))
  have hexponents := (Nat.pow_lt_pow_iff_right (by decide)).mp hpowers
  unfold lead
  omega

/-- What is found on a grid lies in the interval. -/
lemma onGrid?_eq_some {d : Decimal.Digits} (h : i.onGrid? den e = some d) :
    d.exponent = e ∧ i.holds (d.digits * (den * tenTo e.toNat)) (tenTo (-e).toNat) = true := by
  have hnum : (if e < 0 then tenTo (-e).toNat else 1) = tenTo (-e).toNat := by
    split_ifs with hneg
    · rfl
    · rw [Int.toNat_of_nonpos (by omega)]
      rfl
  have hgrid : (if e < 0 then 1 else tenTo e.toNat) = tenTo e.toNat := by
    split_ifs with hneg
    · rw [Int.toNat_of_nonpos (by omega)]
      rfl
    · rfl
  unfold Interval.onGrid? at h
  simp only [hnum, hgrid] at h
  split_ifs at h with hboth hnearer hlower hupper <;> obtain rfl := Option.some.inj h
  · exact ⟨rfl, (Bool.and_eq_true_iff.mp hboth).2⟩
  · exact ⟨rfl, (Bool.and_eq_true_iff.mp hboth).1⟩
  · exact ⟨rfl, hlower⟩
  · exact ⟨rfl, hupper⟩

lemma le_of_holds {scaled unit : Nat} (h : i.holds scaled unit = true) : (i.value - i.below) * unit ≤ scaled := by
  unfold Interval.holds at h
  split_ifs at h <;> simp only [Bool.and_eq_true, decide_eq_true_eq] at h
  · exact h.1
  · exact h.1.le

/-- Whether a value reaches a power of ten with every value that rounds to it. -/
structure Reaches (i : Interval) (den k : Nat) : Prop where
  below : 2 * i.below ≤ i.value
  value : 2 * (10 ^ k * den) ≤ i.value

lemma Reaches.le_lead_onGrid (hreaches : Reaches i den k) (hden : 0 < den) {d : Decimal.Digits}
    (h : i.onGrid? den e = some d) : (k : Int) ≤ lead d := by
  obtain ⟨rfl, hholds⟩ := onGrid?_eq_some h
  have hlow := le_of_holds hholds
  have hhalf : 10 ^ k * den ≤ i.value - i.below := by
    have hbelow := hreaches.below
    have hvalue := hreaches.value
    omega
  apply le_lead
  apply Nat.le_of_mul_le_mul_left _ hden
  calc den * (10 ^ k * tenTo (-d.exponent).toNat) = 10 ^ k * den * tenTo (-d.exponent).toNat := by ring
    _ ≤ (i.value - i.below) * tenTo (-d.exponent).toNat := Nat.mul_le_mul_right _ hhalf
    _ ≤ d.digits * (den * tenTo d.exponent.toNat) := hlow
    _ = den * (d.digits * tenTo d.exponent.toNat) := by ring

/-- A search that ends without a point on a grid gives the value itself, whose first digit is further to the left. -/
lemma Reaches.le_lead_search (hreaches : Reaches i den k) (hden : 0 < den) {fuel : Nat} {e : Int}
    (hfallback : (k : Int) + fuel ≤ lead ⟨i.value, e⟩) :
    0 < (i.search den fuel e).digits ∧ (k : Int) ≤ lead (i.search den fuel e) := by
  induction fuel generalizing e with
  | zero =>
    have hpos : 0 < 2 * (10 ^ k * den) := by positivity
    exact ⟨hpos.trans_le hreaches.value, by simpa [Interval.search] using hfallback⟩
  | succ fuel ih =>
    have hnext : (k : Int) + fuel ≤ lead ⟨i.value, e - 1⟩ := by
      have hlead : lead ⟨i.value, e - 1⟩ = lead ⟨i.value, e⟩ - 1 := by
        unfold lead
        ring
      push_cast at hfallback
      omega
    rw [Interval.search]
    split
    · rename_i d hd
      split_ifs with hzero
      · exact ih hnext
      · exact ⟨Nat.pos_of_ne_zero hzero, hreaches.le_lead_onGrid hden hd⟩
    · exact ih hnext

lemma lead_stripped (fuel : Nat) {d : Decimal.Digits} (h : 0 < d.digits) :
    0 < (Digits.stripped fuel d).digits ∧ lead (Digits.stripped fuel d) = lead d := by
  induction fuel generalizing d with
  | zero => exact ⟨h, rfl⟩
  | succ fuel ih =>
    rw [Digits.stripped]
    split_ifs with hlast
    -- for the zero that goes the exponent grows, so the first digit stays where it is
    · have hten : 10 ≤ d.digits := by
        simp only [Bool.and_eq_true, beq_iff_eq] at hlast
        omega
      have hlength : (Nat.toDigits 10 d.digits).length = (Nat.toDigits 10 (d.digits / 10)).length + 1 := by
        rw [Nat.toDigits_of_base_le (by decide) hten, List.length_append, List.length_singleton]
      obtain ⟨hpos, hlead⟩ := ih (d := ⟨d.digits / 10, d.exponent + 1⟩) (Nat.div_pos hten (by decide))
      refine ⟨hpos, hlead.trans ?_⟩
      unfold lead
      rw [hlength]
      push_cast
      ring
    · exact ⟨h, rfl⟩

end Shortest

/-! ### Texts -/

lemma value_interval (bits : Nat) : (binary64.interval bits).value = 4 * binary64.numerator bits :=
  Nat.mul_assoc _ _ _

lemma below_interval {bits : Nat} (h : binary64.step ≤ bits) :
    2 * (binary64.interval bits).below ≤ (binary64.interval bits).value := by
  have hsignificand : 1 ≤ binary64.significand bits := le_trans (by decide) (step_le_significand h)
  have hunit : twoTo (binary64.scale bits) ≤ binary64.numerator bits := Nat.le_mul_of_pos_left _ hsignificand
  have hbelow : (binary64.interval bits).below ≤ 2 * twoTo (binary64.scale bits) := by
    unfold BinaryFormat.interval
    dsimp only
    split_ifs <;> omega
  rw [value_interval]
  omega

/-- A large double: one of at least `2 ^ 63`. -/
def IsLarge (bits : Nat) : Prop := (63 + 1023) * binary64.step ≤ bits

lemma IsLarge.numerator {bits : Nat} (h : IsLarge bits) : 2 ^ (63 + binary64.lowest) ≤ binary64.numerator bits := by
  have hnumerator : 2 ^ (52 + (63 + 1022)) ≤ binary64.numerator bits := le_numerator h
  have hexponent : 52 + (63 + 1022) = 63 + binary64.lowest := rfl
  rwa [hexponent] at hnumerator

lemma IsLarge.reaches {bits : Nat} (h : IsLarge bits) :
    Reaches (binary64.interval bits) (twoTo (binary64.lowest + 2)) 16 where
  below := below_interval (le_trans (Nat.le_mul_of_pos_left _ (by decide)) h)
  value := by
    have hnumerator := h.numerator
    rw [value_interval, twoTo_eq]
    rw [pow_add] at hnumerator ⊢
    omega

lemma IsLarge.shortest {bits : Nat} (h : IsLarge bits) :
    0 < (binary64.shortest bits).digits ∧ (16 : Int) ≤ lead (binary64.shortest bits) := by
  have hvalue : 2 ^ (65 + binary64.lowest) ≤ (binary64.interval bits).value := by
    have hnumerator := h.numerator
    rw [value_interval]
    rw [pow_add] at hnumerator ⊢
    omega
  have hlowest : binary64.lowest = 1074 := rfl
  have hlog : 65 + binary64.lowest ≤ (binary64.interval bits).value.log2 := (le_log2_of_pow_le hvalue).2
  have hlong : ((21 : Nat) : Int) ≤ lead ⟨(binary64.interval bits).value, 0⟩ := by
    apply le_lead
    have hsmall : 10 ^ 21 ≤ 2 ^ (65 + binary64.lowest) :=
      le_trans (by decide : 10 ^ 21 ≤ 2 ^ 70) (Nat.pow_le_pow_right (by decide) (by omega))
    simpa [tenTo_eq] using hsmall.trans hvalue
  have hden : 0 < twoTo (binary64.lowest + 2) := twoTo_pos _
  unfold BinaryFormat.shortest
  dsimp only
  generalize htop : (((binary64.interval bits).value.log2 : Int) - ((binary64.lowest + 2 : Nat) : Int)) * 30103 /
    100000 + 2 = top
  -- the search takes up to 25 steps down, so a value that is left as it is has still enough digits
  have hfallback : ((16 : Nat) : Int) + (25 : Nat) ≤ lead ⟨(binary64.interval bits).value, top⟩ := by
    unfold lead at hlong ⊢
    dsimp only at hlong ⊢
    omega
  obtain ⟨hpos, hlead⟩ := h.reaches.le_lead_search hden hfallback
  obtain ⟨hpos', hlead'⟩ := lead_stripped 20 hpos
  exact ⟨hpos', hlead'.symm ▸ hlead⟩

/-- The signs in the text of a number. -/
def IsNumberSign (c : Char) : Prop := isDigit c = true ∨ c ∈ ['.', 'e', '+', '-']

/-- A number whose first digit stands far to the left is written with one digit in front of its point or its
exponent. -/
lemma text_of_lead {d : Decimal.Digits} (hpos : 0 < d.digits) (hlead : 16 ≤ lead d) :
    ∃ n c rest, 0 < n ∧ n < 10 ∧ isDigit c = false ∧ (d.text doubleStyle).toList = n.digitChar :: c :: rest ∧
      ∀ c ∈ (d.text doubleStyle).toList, IsNumberSign c := by
  obtain ⟨n, digits, hn, hlt, hdigits⟩ := toDigits_eq_cons hpos
  have hstyle : ¬ (doubleStyle.lowest ≤ lead d && lead d ≤ doubleStyle.highest) = true := by
    have hhighest : doubleStyle.highest = 15 := rfl
    simp only [Bool.and_eq_true, decide_eq_true_eq]
    omega
  have hmark : ¬ lead d < 0 := by omega
  have htext : (d.text doubleStyle).toList = n.digitChar ::
      ((if digits.isEmpty then [] else '.' :: digits) ++ 'e' :: '+' :: Nat.toDigits 10 (lead d).natAbs) := by
    have hsame : d.exponent + ((n.digitChar :: digits).length : Int) - 1 = lead d := by
      rw [lead, hdigits]
    unfold Decimal.Digits.text
    simp only [toList_toString, hdigits, hsame, if_neg hstyle, if_neg hmark]
    cases digits with
    | nil => simp
    | cons c digits => simp
  have hdigit : ∀ c ∈ digits, IsNumberSign c := by
    intro c hc
    have hmem : c ∈ Nat.toDigits 10 d.digits := hdigits ▸ List.mem_cons_of_mem _ hc
    exact .inl (isDigit_of_mem_toDigits hmem)
  have hexponent : ∀ c ∈ 'e' :: '+' :: Nat.toDigits 10 (lead d).natAbs, IsNumberSign c := by
    simp only [List.forall_mem_cons]
    exact ⟨.inr (by decide), .inr (by decide), fun c hc => .inl (isDigit_of_mem_toDigits hc)⟩
  have hfirst : IsNumberSign n.digitChar := .inl (isDigit_digitChar hlt)
  rw [htext]
  cases digits with
  | nil => exact ⟨n, 'e', _, hn, hlt, by decide, rfl, List.forall_mem_cons.mpr ⟨hfirst, hexponent⟩⟩
  | cons c digits =>
    have hpoint : IsNumberSign '.' := .inr (by decide)
    refine ⟨n, '.', _, hn, hlt, by decide, rfl, List.forall_mem_cons.mpr ⟨hfirst, ?_⟩⟩
    exact List.forall_mem_append.mpr ⟨List.forall_mem_cons.mpr ⟨hpoint, hdigit⟩, hexponent⟩

/-- The text of a large double has one digit in front of its point or its exponent. -/
lemma text_of_isLarge {bits : Nat} (h : IsLarge bits) (hfinite : bits < binary64.infinity) :
    ∃ n c rest, 0 < n ∧ n < 10 ∧ isDigit c = false ∧
      (Double.ofMagnitude false bits).text.toList = n.digitChar :: c :: rest ∧
      ∀ c ∈ (Double.ofMagnitude false bits).text.toList, IsNumberSign c := by
  have hinfinity : binary64.infinity = 0x7FF0000000000000 := rfl
  have hbits : (Double.ofMagnitude false bits).bits.toNat = bits := by
    have hword : bits < UInt64.size := hfinite.trans (by decide)
    exact UInt64.toNat_ofNat_of_lt' hword
  have hmagnitude : (Double.ofMagnitude false bits).magnitude = bits := by
    rw [Double.magnitude, hbits]
    omega
  have hsign : (Double.ofMagnitude false bits).isNegative = false := by
    rw [Double.isNegative, decide_eq_false_iff_not, UInt64.le_iff_toNat_le, hbits]
    exact Nat.not_le_of_lt (hfinite.trans (by decide))
  have hne : bits ≠ 0 := by
    rintro rfl
    have hsome : ¬ (63 + 1023) * binary64.step ≤ 0 := by decide
    exact hsome h
  have htext : (Double.ofMagnitude false bits).text = (binary64.shortest bits).text doubleStyle := by
    rw [Double.text, hmagnitude, hsign, if_neg hne]
    simp
  rw [htext]
  obtain ⟨hpos, hlead⟩ := h.shortest
  exact text_of_lead hpos hlead

end TextSearch.Proofs
