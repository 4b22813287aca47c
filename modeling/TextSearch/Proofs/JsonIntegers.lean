import TextSearch.Index.Builder
import TextSearch.Proofs.BuilderRuns
import TextSearch.Proofs.JsonRows
import TextSearch.Proofs.LargeDoubles
import TextSearch.Proofs.UnsignedNumerals

/-!
# Whole numbers in rows

A whole number in a row that 64 bits hold keeps its digits, and an unsigned attribute takes it, cut to the largest
word. A larger one becomes a double. Its text has an exponent, and the attribute takes the digit in front of it.
-/

namespace TextSearch.Proofs
open Json Decimal Unicode

/-! ### Digits that 64 bits do not hold -/

/-- Digits are left over where 64 bits do not hold the number, and not even the next digit. -/
lemma absorbDigits_of_size_le {digits : List Char} (h : ∀ c ∈ digits, isDigit c = true) {acc : Nat}
    (hacc : acc < UInt64.size) (hlarge : UInt64.size ≤ digitsValue acc digits) :
    0 < (absorbDigits acc digits).2 ∧ UInt64.size ≤ (absorbDigits acc digits).1 * 10 + 9 := by
  induction digits generalizing acc with
  | nil => exact absurd hacc (Nat.not_lt.mpr hlarge)
  | cons c digits ih =>
    obtain ⟨hc, hdigits⟩ := List.forall_mem_cons.mp h
    have hvalue := digitValue_le hc
    simp only [absorbDigits]
    split_ifs with hsmall
    · exact ih hdigits hsmall hlarge
    · refine ⟨Nat.succ_pos _, ?_⟩
      dsimp only
      omega

section Scaling

variable {head above : Nat}

lemma le_head (h : UInt64.size ≤ head * 10 + 9) : 2 ^ 60 * 1 ≤ head := by
  have hsize : UInt64.size = 2 ^ 64 := rfl
  omega

lemma round_head_ne_zero (h : UInt64.size ≤ head * 10 + 9) : binary64.round head 1 ≠ 0 := by
  have hround : (60 + 1023) * binary64.step ≤ binary64.round head 1 :=
    le_round (by decide) (by decide) (le_head h)
  have hstep : 0 < (60 + 1023) * binary64.step := by decide
  exact (hstep.trans_le hround).ne'

lemma isLarge_multiply (hhead : UInt64.size ≤ head * 10 + 9) (habove : 0 < above) :
    IsLarge (multiply (binary64.round head 1) (powerOfTen above)) := by
  have hhead : 2 ^ (60 + binary64.lowest) ≤ binary64.numerator (binary64.round head 1) :=
    le_numerator_round (by decide) (by decide) (le_head hhead)
  have hpower : 2 ^ (3 + binary64.lowest) ≤ binary64.numerator (powerOfTen above) := by
    apply le_numerator_round (by decide) (by decide)
    have hten : 10 ^ 1 ≤ tenTo above := Nat.pow_le_pow_right (by decide) habove
    omega
  unfold multiply
  refine le_round (by decide) (twoTo_pos _) ?_
  calc 2 ^ 63 * twoTo (2 * binary64.lowest) = 2 ^ (60 + binary64.lowest) * 2 ^ (3 + binary64.lowest) := by
        rw [twoTo_eq, ← pow_add, ← pow_add]
        ring_nf
    _ ≤ _ := Nat.mul_le_mul hhead hpower

lemma multiply_le_infinity (a b : Nat) : multiply a b ≤ binary64.infinity := min_le_left _ _

lemma scaleByTen_natCast {value bits : Nat} (hne : value ≠ 0) (h : scaleByTen value above = some bits) :
    bits = multiply value (powerOfTen above) ∧ bits < binary64.infinity := by
  rw [scaleByTen, if_neg hne, if_pos (Int.natCast_nonneg above), Int.toNat_natCast] at h
  dsimp only at h
  split_ifs at h with hpower hinfinite
  obtain rfl := Option.some.inj h
  exact ⟨rfl, lt_of_le_of_ne (multiply_le_infinity _ _) hinfinite⟩

lemma scaleByTen_eq_some {value above : Nat} (hne : value ≠ 0) (habove : above ≤ largestPower)
    (hfinite : multiply value (powerOfTen above) ≠ binary64.infinity) :
    scaleByTen value above = some (multiply value (powerOfTen above)) := by
  have hpower : ¬ (largestPower : Int) < above := by omega
  rw [scaleByTen, if_neg hne, if_neg hpower, if_pos (Int.natCast_nonneg above), Int.toNat_natCast]
  exact if_neg hfinite

end Scaling

/-- A whole number that 64 bits do not hold denotes a large double, if any. -/
lemma number?_of_size_le {n : Nat} (h : UInt64.size ≤ n) {num : JsonNumber}
    (hnum : NumeralParts.number? ⟨false, Nat.toDigits 10 n, none, none⟩ = some num) :
    ∃ bits, num = .double (Double.ofMagnitude false bits) ∧ IsLarge bits ∧ bits < binary64.infinity := by
  have hlarge : ¬ n < UInt64.size := Nat.not_lt.mpr h
  have hdigits : ∀ c ∈ Nat.toDigits 10 n, isDigit c = true := fun c hc => isDigit_of_mem_toDigits hc
  obtain ⟨habove, hhead⟩ := absorbDigits_of_size_le hdigits (by decide) ((digitsValue_toDigits n).symm ▸ h)
  have hscaled : ∃ bits, scaleByTen (binary64.round (absorbDigits 0 (Nat.toDigits 10 n)).1 1)
      (absorbDigits 0 (Nat.toDigits 10 n)).2 = some bits ∧ .double (Double.ofMagnitude false bits) = num := by
    simpa [NumeralParts.number?, NumeralParts.double?, digitsValue_toDigits, hlarge, absorbDigits] using hnum
  obtain ⟨bits, hbits, rfl⟩ := hscaled
  generalize (absorbDigits 0 (Nat.toDigits 10 n)).1 = head at hbits hhead
  generalize (absorbDigits 0 (Nat.toDigits 10 n)).2 = above at hbits habove
  obtain ⟨hproduct, hfinite⟩ := scaleByTen_natCast (round_head_ne_zero hhead) hbits
  refine ⟨bits, rfl, ?_, hfinite⟩
  rw [hproduct]
  exact isLarge_multiply hhead habove

/-! ### What an unsigned attribute takes -/

lemma isBlank_of_isNumberSign {c : Char} (h : IsNumberSign c) : isBlank c = false := by
  rcases h with hdigit | hsign
  · exact isBlank_of_isDigit hdigit
  · simp only [List.mem_cons, List.not_mem_nil, or_false] at hsign
    rcases hsign with rfl | rfl | rfl | rfl <;> decide

lemma trimBlanks_of_signs {cs : List Char} (h : ∀ c ∈ cs, IsNumberSign c) : trimBlanks cs = cs :=
  trimBlanks_eq_self fun c hc => isBlank_of_isNumberSign (h c hc)

/-- Digits up to something else are the number, cut to the largest word. -/
lemma unsignedValue_of_digits {digits rest : List Char} (hne : digits ≠ [])
    (hdigits : ∀ c ∈ digits, isDigit c = true) (hrest : ∀ c ∈ rest.head?, isDigit c = false)
    (hsigns : ∀ c ∈ digits ++ rest, IsNumberSign c) :
    (unsignedValue (digits ++ rest)).toNat = min (digitsValue 0 digits) (UInt32.size - 1) := by
  have hstarts := startsUnsigned_digits ⟨hne, hdigits⟩ hrest
  rw [← trimBlanks_of_signs hsigns] at hstarts
  exact hstarts.toNat_unsignedValue

lemma unsignedValue_toDigits (n : Nat) :
    (unsignedValue (Nat.toDigits 10 n)).toNat = min n (UInt32.size - 1) := by
  have hdigits : ∀ c ∈ Nat.toDigits 10 n, isDigit c = true := fun c hc => isDigit_of_mem_toDigits hc
  have hsigns : ∀ c ∈ Nat.toDigits 10 n ++ [], IsNumberSign c := by
    rw [List.append_nil]
    exact fun c hc => .inl (hdigits c hc)
  have hvalue := unsignedValue_of_digits (List.ne_nil_of_length_pos Nat.length_toDigits_pos) hdigits (by simp) hsigns
  rwa [List.append_nil, digitsValue_toDigits] at hvalue

lemma unsignedValue_of_isLarge {bits : Nat} (h : IsLarge bits) (hfinite : bits < binary64.infinity) :
    1 ≤ (unsignedValue (Double.ofMagnitude false bits).text.toList).toNat ∧
      (unsignedValue (Double.ofMagnitude false bits).text.toList).toNat ≤ 9 := by
  obtain ⟨n, c, rest, hn, hlt, hc, htext, hsigns⟩ := text_of_isLarge h hfinite
  have hvalue : (unsignedValue ([n.digitChar] ++ c :: rest)).toNat =
      min (digitsValue 0 [n.digitChar]) (UInt32.size - 1) := by
    apply unsignedValue_of_digits (List.cons_ne_nil _ _)
    · simpa using isDigit_digitChar hlt
    · simpa using hc
    · rwa [htext] at hsigns
  have hsize : UInt32.size = 2 ^ 32 := rfl
  rw [digitsValue_digitChar 0 hlt] at hvalue
  rw [htext, ← List.singleton_append, hvalue]
  omega

/-! ### Rows with whole numbers -/

lemma number_of_spells {n : Nat} {value : JsonValue} (h : Spells 0 (.value value) (Nat.toDigits 10 n)) :
    ∃ num, value = .number num ∧ NumeralParts.number? ⟨false, Nat.toDigits 10 n, none, none⟩ = some num := by
  have hends : Ends [] := by
    rintro _ ⟨⟩
  have hfuel : 2 * (Nat.toDigits 10 n).length ≤ 2 * (Nat.toDigits 10 n).length + 1 := Nat.le_succ _
  obtain ⟨more, hread, -⟩ := h.isRead hfuel Nat.zero_lt_one hends
  rw [value?_numeral (spellsNumeral_toDigits n) hends, Option.map_eq_some_iff] at hread
  obtain ⟨num, hnum, hvalue⟩ := hread
  exact ⟨num, (Prod.mk.inj hvalue).1.symm, hnum⟩

/-- What an unsigned attribute takes of a value. -/
def storedWord (value : JsonValue) : UInt32 := unsignedValue (JsonLines.rawText value).toList

section Stored

variable {n : Nat} {value : JsonValue}

lemma storedWord_of_lt (h : Spells 0 (.value value) (Nat.toDigits 10 n)) (hn : n < UInt64.size) :
    (storedWord value).toNat = min n (UInt32.size - 1) := by
  obtain ⟨num, rfl, hnum⟩ := number_of_spells h
  obtain rfl := Option.some.inj ((number?_toDigits hn).symm.trans hnum)
  have htext : (JsonLines.rawText (.number (.integer n))).toList = Nat.toDigits 10 n := toList_toString n
  rw [storedWord, htext]
  exact unsignedValue_toDigits n

lemma storedWord_of_size_le (h : Spells 0 (.value value) (Nat.toDigits 10 n)) (hn : UInt64.size ≤ n) :
    1 ≤ (storedWord value).toNat ∧ (storedWord value).toNat ≤ 9 := by
  obtain ⟨num, rfl, hnum⟩ := number_of_spells h
  obtain ⟨bits, rfl, hlarge, hfinite⟩ := number?_of_size_le hn hnum
  exact unsignedValue_of_isLarge hlarge hfinite

lemma storedWord_eq_iff (h : Spells 0 (.value value) (Nat.toDigits 10 n)) :
    (storedWord value).toNat = min n (UInt32.size - 1) ↔ n < UInt64.size := by
  refine ⟨fun heq => ?_, storedWord_of_lt h⟩
  by_contra hn
  obtain ⟨-, hsmall⟩ := storedWord_of_size_le h (Nat.le_of_not_lt hn)
  have hword : UInt32.size = 2 ^ 32 := rfl
  have hlong : UInt64.size = 2 ^ 64 := rfl
  omega

end Stored

/-- The text of an object with a whole number for one name. -/
def integerRow (n : Nat) : String := "\x7b\"n\":" ++ toString n ++ "\x7d"

lemma spellsRow_integerRow {n : Nat} {value : JsonValue} (h : Spells 0 (.value value) (Nat.toDigits 10 n)) :
    SpellsRow [("n", value)] (integerRow n).toList := by
  have hquoted : SpellsString "n" ['"', 'n', '"'] :=
    ⟨['n'] ++ [], .cons (.plain (by decide) (by decide) (by decide)) .nil, rfl⟩
  have hname : SpellsName "n" ['"', 'n', '"'] :=
    ⟨[], ['"', 'n', '"'], [], by simp [Spaces], hquoted, by simp [Spaces], rfl⟩
  refine ⟨0, [], _, [], by simp [Blanks], .lastMember hname h, by simp [Blanks], by decide, ?_⟩
  simp [integerRow]

/-- The least number that 64 bits do not hold. -/
lemma exists_spells_size : ∃ value, Spells 0 (.value value) (Nat.toDigits 10 UInt64.size) := by
  have hdigits : absorbDigits 0 (Nat.toDigits 10 UInt64.size) = (1844674407370955161, 1) := by decide +kernel
  have hscaled : scaleByTen (binary64.round 1844674407370955161 1) (1 : Nat) =
      some (multiply (binary64.round 1844674407370955161 1) (powerOfTen 1)) :=
    scaleByTen_eq_some (by decide +kernel) (by decide) (by decide +kernel)
  have hdouble : (NumeralParts.double? ⟨false, Nat.toDigits 10 UInt64.size, none, none⟩).isSome = true := by
    simpa [NumeralParts.double?, hdigits, absorbDigits] using Option.isSome_of_eq_some hscaled
  obtain ⟨x, hx⟩ := Option.isSome_iff_exists.mp hdouble
  refine ⟨.number (.double x), .number (spellsNumeral_toDigits UInt64.size) ?_⟩
  simp [NumeralParts.number?, digitsValue_toDigits, hx]

/-- A line whose object spells a whole number as the last value of a name gives a row, whatever lines stand around it.
Every builder that takes the row stores for the name the number, cut to the largest word, exactly when 64 bits hold it.
Of a larger number, as far as doubles reach, it stores a single digit. -/
theorem json_integer_is_stored_saturated_iff {members : List (String × JsonValue)} {text name : String}
    {value : JsonValue} {n : Nat} (hrow : SpellsRow members text.toList) (hline : '\n' ∉ text.toList)
    (hmember : (itemsFor name members).getLast? = some value) (hvalue : Spells 0 (.value value) (Nat.toDigits 10 n))
    {front back : List UInt8} (hfront : EndsLine front) (hback : back = [] ∨ back.head? = some JsonLines.lineFeed) :
    ∃ row rest, JsonLines.rows (front ++ (Utf8.encode text ++ back)) = JsonLines.rows front ++ .ok row :: rest ∧
      ∀ (b c : Builder) (ordinal : Ordinal) (offset : Nat), b.schema.unsigned[offset]? = some name →
        b.addRow row = (c, .ok ordinal) →
        ∃ stored, (c.index.attributes.unsigned.record ordinal)[offset]? = some stored ∧
          (stored.toNat = min n (UInt32.size - 1) ↔ n < UInt64.size) ∧
          (UInt64.size ≤ n → 1 ≤ stored.toNat ∧ stored.toNat ≤ 9) := by
  obtain ⟨rest, hrows⟩ := hrow.rows hline hfront hback
  refine ⟨rowOf members, rest, hrows, fun b c ordinal offset hoffset hadd => ⟨storedWord value, ?_, ?_, ?_⟩⟩
  · have hraw : (rowOf members).raw name = JsonLines.rawText value := by
      rw [Row.raw, text?_rowOf hmember, Option.getD_some]
    rw [getElem?_record_addRow hadd hoffset, hraw]
    rfl
  · exact storedWord_eq_iff hvalue
  · exact storedWord_of_size_le hvalue

/-- A number beyond the largest word. -/
theorem json_integer_is_stored_saturated_ten_digits :
    ∃ row rest, JsonLines.rows ([] ++ (Utf8.encode (integerRow 9876543210) ++ [])) =
        JsonLines.rows [] ++ .ok row :: rest ∧
      ∀ (b c : Builder) (ordinal : Ordinal) (offset : Nat), b.schema.unsigned[offset]? = some "n" →
        b.addRow row = (c, .ok ordinal) →
        ∃ stored, (c.index.attributes.unsigned.record ordinal)[offset]? = some stored ∧
          (stored.toNat = min 9876543210 (UInt32.size - 1) ↔ 9876543210 < UInt64.size) ∧
          (UInt64.size ≤ 9876543210 → 1 ≤ stored.toNat ∧ stored.toNat ≤ 9) :=
  json_integer_is_stored_saturated_iff (spellsRow_integerRow (spells_integer (by decide) 0)) (by decide) rfl
    (spells_integer (by decide) 0) (.inl rfl) (.inl rfl)

/-- Of `2 ^ 64` a digit is stored in place of the largest word. -/
theorem json_integer_beyond_64_bits_is_stored_as_a_digit :
    ∃ row rest c stored, JsonLines.rows (Utf8.encode (integerRow 18446744073709551616)) = .ok row :: rest ∧
      (Builder.new { unsigned := ["n"] } fun _ => .ok []).addRow row = (c, .ok 0) ∧
      c.index.attributes.unsigned.record 0 = [stored] ∧ stored.toNat < 10 ∧
      stored.toNat ≠ min 18446744073709551616 (UInt32.size - 1) := by
  obtain ⟨value, hvalue⟩ := exists_spells_size
  have hline : '\n' ∉ (integerRow UInt64.size).toList := by decide
  obtain ⟨rest, hrows⟩ := (spellsRow_integerRow hvalue).rows hline (.inl rfl) (.inl rfl)
  have hpasses : lackedColumn? { unsigned := ["n"] } (rowOf [("n", value)]) = none := rfl
  have hadd := addRow_of_passes (b := Builder.new { unsigned := ["n"] } fun _ => .ok []) (.inr hpasses)
  have hcount : (Builder.new { unsigned := ["n"] } fun _ => .ok []).documentCount < UInt32.size := by decide
  rw [if_pos hcount] at hadd
  have hsmall := (storedWord_of_size_le hvalue le_rfl).2
  refine ⟨rowOf [("n", value)], rest, _, storedWord value, ?_, hadd, record_addRow hadd, ?_, ?_⟩
  · rwa [List.nil_append, List.append_nil, rows_nil, List.nil_append] at hrows
  · omega
  · have hword : UInt32.size = 2 ^ 32 := rfl
    omega

end TextSearch.Proofs
