import TextSearch.Proofs.BuilderSteps
import TextSearch.Proofs.FloatNumerals

/-!
# Numerals of words

An unsigned attribute takes the number that its raw text starts with, cut to the largest word. The numeral is cut off
between two characters and read digit by digit. Reading fails only where the number is too large.
-/

namespace TextSearch.Proofs
open Decimal Unicode

/-- The unsigned numeral that a text starts with: a plus sign if there is one, as many digits as there are, and what is
left. -/
structure StartsUnsigned (cs plus digits rest : List Char) : Prop where
  split : cs = plus ++ (digits ++ rest)
  sign : plus = ['+'] ∨ plus = [] ∧ ∀ c ∈ cs.head?, c ≠ '+'
  areDigits : ∀ c ∈ digits, isDigit c = true
  ends : ∀ c ∈ rest.head?, isDigit c = false

lemma exists_startsUnsigned (cs : List Char) : ∃ plus digits rest, StartsUnsigned cs plus digits rest := by
  by_cases hplus : cs.head? = some '+'
  · obtain ⟨tail, rfl⟩ := List.head?_eq_some_iff.mp hplus
    obtain ⟨digits, rest, hdigits, rfl, hrest⟩ := exists_digits tail
    exact ⟨['+'], digits, rest, rfl, .inl rfl, hdigits, hrest⟩
  · obtain ⟨digits, rest, hdigits, hcs, hrest⟩ := exists_digits cs
    refine ⟨[], digits, rest, hcs, .inr ⟨rfl, ?_⟩, hdigits, hrest⟩
    rintro c hc rfl
    exact hplus hc

lemma startsUnsigned_digits {digits rest : List Char} (h : IsDigits digits)
    (hrest : ∀ c ∈ rest.head?, isDigit c = false) : StartsUnsigned (digits ++ rest) [] digits rest where
  split := rfl
  sign := .inr ⟨rfl, fun c hc => (h.noSign rest c hc).1⟩
  areDigits := h.2
  ends := hrest

/-! ### Cutting off -/

lemma plusLength_cons (c : Char) (cs : List Char) : plusLength (bytesOf (c :: cs)) = if c = '+' then 1 else 0 := by
  obtain ⟨b, bytes, hbytes, hb, -⟩ := exists_bytesOf_cons (toNat_le_of_beq (a := '+') (by decide)) c cs
  rw [hbytes, plusLength, hb]
  simp only [beq_iff_eq]

section Cutting

variable {cs plus digits rest : List Char}

lemma StartsUnsigned.plusLength (h : StartsUnsigned cs plus digits rest) :
    Decimal.plusLength (bytesOf cs) = plus.length := by
  rcases h.sign with rfl | ⟨rfl, hnone⟩
  · rw [h.split, List.singleton_append, plusLength_cons, if_pos rfl, List.length_singleton]
  · cases cs with
    | nil => rfl
    | cons c cs => rw [plusLength_cons, if_neg (hnone c rfl), List.length_nil]

lemma StartsUnsigned.isNumeralChar (h : StartsUnsigned cs plus digits rest) :
    ∀ c ∈ plus ++ digits, IsNumeralChar c := by
  refine List.forall_mem_append.mpr ⟨?_, fun c hc => .inl (h.areDigits c hc)⟩
  rcases h.sign with rfl | ⟨rfl, -⟩ <;> simp [IsNumeralChar, numeralSigns]

lemma StartsUnsigned.unsignedLength (h : StartsUnsigned cs plus digits rest) :
    Decimal.unsignedLength (bytesOf cs) = if digits = [] then 0 else (plus ++ digits).length := by
  have hplus : ∀ c ∈ plus, c.toNat ≤ 127 := fun c hc => (h.isNumeralChar c (List.mem_append_left _ hc)).toNat_le
  unfold Decimal.unsignedLength
  rw [h.plusLength]
  dsimp only
  rw [h.split, drop_bytesOf hplus, digitsLength_append h.areDigits, digitsLength_eq_zero h.ends, Nat.add_zero,
    List.length_append]
  simp only [List.length_eq_zero_iff]

lemma StartsUnsigned.takeBytes? (h : StartsUnsigned cs plus digits rest) (hne : digits ≠ []) :
    Utf8.takeBytes? (Decimal.unsignedLength (bytesOf cs)) cs = some (plus ++ digits) := by
  rw [h.unsignedLength, if_neg hne, h.split, ← List.append_assoc]
  exact takeBytes?_append (fun c hc => (h.isNumeralChar c hc).toNat_le) rest

end Cutting

/-! ### Reading -/

lemma le_digitsValue (acc : Nat) (digits : List Char) : acc ≤ digitsValue acc digits := by
  induction digits generalizing acc with
  | nil => exact le_rfl
  | cons c digits ih =>
    calc acc ≤ acc * 10 + (c.toNat - '0'.toNat) := by omega
      _ ≤ digitsValue (acc * 10 + (c.toNat - '0'.toNat)) digits := ih _

/-- Once a number is too large it stays so with every digit behind it. -/
lemma wordOfDigits_eq {digits : List Char} (h : ∀ c ∈ digits, isDigit c = true) {acc : Nat} (hacc : acc < UInt32.size) :
    wordOfDigits acc digits =
      if digitsValue acc digits < UInt32.size then .ok (UInt32.ofNat (digitsValue acc digits))
      else .error .tooLarge := by
  induction digits generalizing acc with
  | nil =>
    have hnil : digitsValue acc [] = acc := rfl
    rw [wordOfDigits, hnil, if_pos hacc]
  | cons c digits ih =>
    obtain ⟨hc, hdigits⟩ := List.forall_mem_cons.mp h
    rw [wordOfDigits, if_pos hc, ← List.singleton_append, digitsValue_append, digitsValue_singleton]
    dsimp only
    by_cases hnext : acc * 10 + (c.toNat - '0'.toNat) < UInt32.size
    · rw [if_pos hnext, ih hdigits hnext]
    · have hlarge := (Nat.le_of_not_lt hnext).trans (le_digitsValue _ digits)
      rw [if_neg hnext, if_neg (Nat.not_lt.mpr hlarge)]

section Reading

variable {cs plus digits rest : List Char}

lemma StartsUnsigned.dropPlus (h : StartsUnsigned cs plus digits rest) : dropPlus (plus ++ digits) = digits := by
  rcases h.sign with rfl | ⟨rfl, -⟩
  · rfl
  · unfold Decimal.dropPlus
    rw [List.nil_append]
    split
    · rename_i tail
      have hplus : isDigit '+' = true := h.areDigits '+' List.mem_cons_self
      exact absurd hplus (by decide)
    · rfl

lemma StartsUnsigned.readWord (h : StartsUnsigned cs plus digits rest) (hne : digits ≠ []) :
    readWord (plus ++ digits) =
      if digitsValue 0 digits < UInt32.size then .ok (UInt32.ofNat (digitsValue 0 digits)) else .error .tooLarge := by
  unfold Decimal.readWord
  rw [h.dropPlus, if_neg (by simp [hne]), if_neg (by simpa using hne), wordOfDigits_eq h.areDigits (by decide)]

/-- The number that is read is cut to the largest word. -/
lemma StartsUnsigned.unsignedPrefixValue (h : StartsUnsigned cs plus digits rest) :
    Decimal.unsignedPrefixValue cs = UInt32.ofNat (min (digitsValue 0 digits) (UInt32.size - 1)) := by
  unfold Decimal.unsignedPrefixValue
  rw [encode_ofList]
  by_cases hne : digits = []
  · subst hne
    rw [h.unsignedLength, if_pos rfl]
    rfl
  · have hpos : Decimal.unsignedLength (bytesOf cs) ≠ 0 := by
      rw [h.unsignedLength, if_neg hne]
      simp [hne]
    rw [if_neg hpos, h.takeBytes? hne, Option.map_some, h.readWord hne]
    split_ifs with hlt
    · rw [min_eq_left (Nat.le_sub_one_of_lt hlt)]
    · rw [min_eq_right (by omega)]

end Reading

/-! ### Raw values -/

section Raw

variable {before after raw plus digits rest : List Char}

lemma StartsUnsigned.toNat_unsignedValue (h : StartsUnsigned (trimBlanks raw) plus digits rest) :
    (unsignedValue raw).toNat = min (digitsValue 0 digits) (UInt32.size - 1) := by
  have hword : min (digitsValue 0 digits) (UInt32.size - 1) < UInt32.size :=
    lt_of_le_of_lt (min_le_right _ _) (by decide)
  rw [unsignedValue, h.unsignedPrefixValue, UInt32.toNat_ofNat_of_lt' hword]

/-- The digits behind a sign, as many as there are, make the word. -/
lemma StartsUnsigned.readWord_eq (h : StartsUnsigned (trimBlanks raw) plus digits rest) (hne : digits ≠ []) :
    Decimal.readWord (plus ++ digits) =
      if digitsValue 0 digits < UInt32.size then .ok (unsignedValue raw) else .error .tooLarge := by
  rw [h.readWord hne]
  split_ifs with hlt
  · rw [unsignedValue, h.unsignedPrefixValue, min_eq_left (Nat.le_sub_one_of_lt hlt)]
  · rfl

/-- Trimming takes away blanks in front of a word, and some of what stands behind it. -/
lemma exists_trimBlanks_eq (hbefore : Blanks before) {word : List Char} (hword : word ≠ [])
    (hblank : ∀ c ∈ word, isBlank c = false) (rest : List Char) :
    ∃ kept back, trimBlanks (before ++ (word ++ rest)) = word ++ kept ∧ rest = kept ++ back := by
  have hfront : word.head?.any isBlank = false :=
    (Option.any_eq_false _ _).mpr fun c hc => hblank c (List.mem_of_head? hc)
  have hlast : word.getLast?.any isBlank = false :=
    (Option.any_eq_false _ _).mpr fun c hc => hblank c (List.mem_of_getLast? hc)
  obtain ⟨kept, hkept⟩ := prefix_trimBlanks hbefore hword hfront hlast rest
  have htrim : trimBlanks (before ++ (word ++ rest)) =
      ((before ++ (word ++ rest)).dropWhile isBlank).rdropWhile isBlank := rfl
  rw [dropWhile_isBlank hbefore hword hfront] at htrim
  obtain ⟨back, hback⟩ := List.rdropWhile_prefix isBlank (word ++ rest)
  rw [← htrim, ← hkept, List.append_assoc] at hback
  exact ⟨kept, back, hkept.symm, (List.append_cancel_left hback).symm⟩

/-- What cannot go on with a digit cannot do so when its end is cut off. -/
lemma forall_head?_of_append {kept back : List Char} (h : ∀ c ∈ (kept ++ back).head?, isDigit c = false) :
    ∀ c ∈ kept.head?, isDigit c = false := by
  cases kept with
  | nil => exact fun c hc => absurd hc (by simp)
  | cons c kept => exact h

/-- A printed number is read back. -/
lemma unsignedValue_printed (hbefore : Blanks before) (v : UInt32) (hrest : ∀ c ∈ rest.head?, isDigit c = false) :
    unsignedValue (before ++ (toString v.toNat).toList ++ rest) = v := by
  have hdigits : IsDigits (toString v.toNat).toList := by
    rw [toList_toString]
    exact ⟨List.ne_nil_of_length_pos Nat.length_toDigits_pos, fun c hc => isDigit_of_mem_toDigits hc⟩
  obtain ⟨kept, back, htrim, rfl⟩ :=
    exists_trimBlanks_eq hbefore hdigits.1 (fun c hc => isBlank_of_isDigit (hdigits.2 c hc)) rest
  have hstarts := startsUnsigned_digits hdigits (forall_head?_of_append hrest)
  rw [← htrim, ← List.append_assoc] at hstarts
  apply UInt32.toNat_inj.mp
  rw [hstarts.toNat_unsignedValue, toList_toString, digitsValue_toDigits]
  exact min_eq_left (Nat.le_sub_one_of_lt v.toNat_lt)

/-- A plus sign without digits and a minus sign count for nothing. -/
lemma unsignedValue_sign (hbefore : Blanks before) {sign : Char}
    (hsign : sign = '-' ∨ sign = '+' ∧ ∀ c ∈ rest.head?, isDigit c = false) :
    unsignedValue (before ++ sign :: rest) = 0 := by
  have hblank : ∀ c ∈ [sign], isBlank c = false := by
    rw [List.forall_mem_singleton]
    rcases hsign with rfl | ⟨rfl, -⟩ <;> decide
  obtain ⟨kept, back, htrim, rfl⟩ := exists_trimBlanks_eq hbefore (List.cons_ne_nil sign []) hblank rest
  rw [List.singleton_append, List.singleton_append] at htrim
  have hstarts : ∃ plus rest, StartsUnsigned (trimBlanks (before ++ sign :: (kept ++ back))) plus [] rest := by
    rw [htrim]
    rcases hsign with rfl | ⟨rfl, hrest⟩
    · refine ⟨[], '-' :: kept, rfl, .inr ⟨rfl, ?_⟩, List.forall_mem_nil _, ?_⟩
      · rintro _ ⟨⟩
        decide
      · rintro _ ⟨⟩
        decide
    · exact ⟨['+'], kept, rfl, .inl rfl, List.forall_mem_nil _, forall_head?_of_append hrest⟩
  obtain ⟨plus, rest, hstarts⟩ := hstarts
  exact UInt32.toNat_inj.mp hstarts.toNat_unsignedValue

end Raw

/-- The number that a raw value without its blanks starts with. -/
def StartsWithCount (raw : List Char) (n : Nat) : Prop :=
  ∃ plus digits rest, StartsUnsigned (trimBlanks raw) plus digits rest ∧ n = Nat.ofDigits 10 (placeValues digits)

/-- A raw value has one unsigned numeral at its front, which may be without digits, and its value is the number that the
digits denote, cut to the largest word. The numeral is cut off whole, and reading it fails only if the number is too
large. Larger numbers have larger values. A printed word is read back between blanks, with any text behind it that does
not start with a digit. A sign without digits counts for nothing, and so does a minus sign. Every builder stores the
value of each unsigned column. -/
theorem unsigned_values_saturate :
    (∀ raw, ∃ plus digits rest, StartsUnsigned (trimBlanks raw) plus digits rest) ∧
    (∀ raw plus digits rest, StartsUnsigned (trimBlanks raw) plus digits rest →
      (unsignedValue raw).toNat = min (Nat.ofDigits 10 (placeValues digits)) (UInt32.size - 1) ∧
      (digits = [] → unsignedValue raw = 0) ∧
      (digits ≠ [] →
        Utf8.takeBytes? (unsignedLength (Utf8.encode (String.ofList (trimBlanks raw)))) (trimBlanks raw) =
          some (plus ++ digits) ∧
        readWord (plus ++ digits) = if Nat.ofDigits 10 (placeValues digits) < UInt32.size then .ok (unsignedValue raw)
          else .error .tooLarge)) ∧
    (∀ raw other n m, StartsWithCount raw n → StartsWithCount other m → n ≤ m →
      unsignedValue raw ≤ unsignedValue other) ∧
    (∀ (v : UInt32) (before after extra : List Char), Blanks before → Blanks after →
      (∀ c ∈ extra.head?, isDigit c = false) →
      unsignedValue (before ++ (toString v.toNat).toList ++ (after ++ extra)) = v) ∧
    (∀ (sign : Char) (before rest : List Char), Blanks before →
      (sign = '-' ∨ sign = '+' ∧ ∀ c ∈ rest.head?, isDigit c = false) →
      unsignedValue (before ++ sign :: rest) = 0) ∧
    ∀ (b c : Builder) (row : Row) (ordinal : Ordinal) (offset : Nat) (name : String),
      b.schema.unsigned[offset]? = some name → b.addRow row = (c, .ok ordinal) →
      (c.index.attributes.unsigned.record ordinal)[offset]? = some (unsignedValue (row.raw name).toList) := by
  refine ⟨fun raw => exists_startsUnsigned _, ?parts, ?monotone, ?printed, ?signs, ?stored⟩
  case parts =>
    intro raw plus digits rest h
    rw [← digitsValue_eq_ofDigits]
    refine ⟨h.toNat_unsignedValue, ?_, fun hne => ⟨?_, h.readWord_eq hne⟩⟩
    · rintro rfl
      exact UInt32.toNat_inj.mp h.toNat_unsignedValue
    · rw [encode_ofList]
      exact h.takeBytes? hne
  case monotone =>
    rintro raw other n m ⟨plus, digits, rest, h, rfl⟩ ⟨plus', digits', rest', h', rfl⟩ hle
    rw [← digitsValue_eq_ofDigits, ← digitsValue_eq_ofDigits] at hle
    rw [UInt32.le_iff_toNat_le, h.toNat_unsignedValue, h'.toNat_unsignedValue]
    exact min_le_min_right _ hle
  case printed =>
    intro v before after extra hbefore hafter hextra
    apply unsignedValue_printed hbefore
    cases after with
    | nil => exact hextra
    | cons c after =>
      rintro _ ⟨⟩
      by_contra hdigit
      have hblank : isBlank c = false := isBlank_of_isDigit (by simpa using hdigit)
      rw [hafter c List.mem_cons_self] at hblank
      exact absurd hblank (by decide)
  case signs => exact fun sign before rest hbefore hsign => unsignedValue_sign hbefore hsign
  case stored => exact fun b c row ordinal offset name hoffset hadd => getElem?_record_addRow hadd hoffset

/-- A numeral with a leading zero of the least number that is too large, and smaller ones. -/
theorem unsigned_values_saturate_ten_digits :
    let raw := " +04294967296kg ".toList
    let digits := "04294967296".toList
    let b := Builder.new { unsigned := ["n"] } fun _ => .ok []
    let row : Row := [("n", "\t-8")]
    StartsUnsigned (trimBlanks raw) ['+'] digits ['k', 'g'] ∧ (unsignedValue raw).toNat = UInt32.size - 1 ∧
      readWord ('+' :: digits) = .error .tooLarge ∧
      StartsWithCount ['7', 'x'] 7 ∧ StartsWithCount raw 4294967296 ∧ unsignedValue ['7', 'x'] ≤ unsignedValue raw ∧
      unsignedValue ([' '] ++ (toString 12).toList ++ ([' '] ++ ['x'])) = 12 ∧
      unsignedValue ([' '] ++ '+' :: ['x', '5']) = 0 ∧
      ∃ c, b.addRow row = (c, .ok 0) ∧ (c.index.attributes.unsigned.record 0)[0]? = some 0 := by
  intro raw digits b row
  obtain ⟨-, hparts, hmonotone, hprinted, hsigns, hstored⟩ := unsigned_values_saturate
  have hunit : ∀ c ∈ ['k', 'g'].head?, isDigit c = false := by
    rintro _ ⟨⟩
    decide
  have hletter : ∀ rest : List Char, ∀ c ∈ ('x' :: rest).head?, isDigit c = false := by
    rintro rest _ ⟨⟩
    decide
  have hraw : StartsUnsigned (trimBlanks raw) ['+'] digits ['k', 'g'] :=
    ⟨by decide +kernel, .inl rfl, List.all_eq_true.mp (by decide +kernel), hunit⟩
  have htrim : trimBlanks ['7', 'x'] = ['7'] ++ ['x'] := by decide +kernel
  have hseven : StartsUnsigned (trimBlanks ['7', 'x']) [] ['7'] ['x'] := by
    rw [htrim]
    exact startsUnsigned_digits ⟨by decide, List.all_eq_true.mp (by decide)⟩ (hletter [])
  have hnumber : Nat.ofDigits 10 (placeValues digits) = 4294967296 := by decide +kernel
  have hcount : StartsWithCount raw 4294967296 := ⟨_, _, _, hraw, hnumber.symm⟩
  have hcount' : StartsWithCount ['7', 'x'] 7 := ⟨_, _, _, hseven, by decide⟩
  obtain ⟨hvalue, -, hread⟩ := hparts _ _ _ _ hraw
  obtain ⟨-, hword⟩ := hread (by decide)
  rw [hnumber] at hvalue hword
  have hadd : b.addRow row = ((b.addRow row).1, .ok 0) := rfl
  have hcolumn : (row.raw "n").toList = ['\t'] ++ '-' :: ['8'] := by decide +kernel
  refine ⟨hraw, hvalue, hword, hcount', hcount, hmonotone _ _ _ _ hcount' hcount (by decide), ?_, ?_, _, hadd, ?_⟩
  · exact hprinted 12 [' '] [' '] ['x'] (by decide) (by decide) (hletter [])
  · exact hsigns '+' [' '] ['x', '5'] (by decide) (.inr ⟨rfl, hletter ['5']⟩)
  · rw [hstored _ _ row 0 0 "n" rfl hadd, hcolumn]
    exact congrArg some (hsigns '-' ['\t'] ['8'] (by decide) (.inl rfl))

end TextSearch.Proofs
