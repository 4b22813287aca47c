import TextSearch.Proofs.ColumnFilters
import TextSearch.Proofs.FilterTexts
import TextSearch.Proofs.FloatNumerals
import TextSearch.Proofs.NearestSingles

/-!
# Filters on floats

A float is compared by its text with six places. A decimal number that was stored as a float is found again by its own
text with six places if some float is less than half a millionth away from it, as one always is below 16.
-/

namespace TextSearch.Proofs
open Decimal Text Unicode

/-! ### Six places -/

/-- A text of a number of millionths, with six digits behind the point. -/
def WritesSixPlaces (k : Nat) (text : String) : Prop :=
  ∃ fraction, text.toList = (toString (k / 10 ^ 6)).toList ++ '.' :: fraction ∧ fraction.length = 6 ∧
    (∀ c ∈ fraction, isDigit c = true) ∧ Nat.ofDigits 10 (placeValues fraction) = k % 10 ^ 6

section Places

variable {width n k : Nat} {text : String}

lemma digitsValue_zeros (count : Nat) (digits : List Char) :
    digitsValue 0 (List.replicate count '0' ++ digits) = digitsValue 0 digits := by
  induction count with
  | zero => rfl
  | succ count ih =>
    have hzero : ∀ rest, digitsValue 0 ('0' :: rest) = digitsValue (0 * 10 + ('0'.toNat - '0'.toNat)) rest :=
      fun _ => rfl
    rw [List.replicate_succ, List.cons_append, hzero, Nat.sub_self, Nat.zero_mul, Nat.zero_add, ih]

lemma paddedDigits_eq (width n : Nat) : paddedDigits width n =
    List.replicate (width - (Nat.toDigits 10 n).length) '0' ++ Nat.toDigits 10 n := by
  unfold paddedDigits
  rw [toList_toString]

lemma length_paddedDigits (hwidth : 0 < width) (h : n < 10 ^ width) : (paddedDigits width n).length = width := by
  have hle : (Nat.toDigits 10 n).length ≤ width := (Nat.length_toDigits_le_iff (by decide) hwidth).mpr h
  rw [paddedDigits_eq, List.length_append, List.length_replicate]
  omega

lemma isDigit_of_mem_paddedDigits {c : Char} (h : c ∈ paddedDigits width n) : isDigit c = true := by
  rw [paddedDigits_eq, List.mem_append] at h
  rcases h with hzero | hdigit
  · rw [List.eq_of_mem_replicate hzero]
    decide
  · exact isDigit_of_mem_toDigits hdigit

lemma digitsValue_paddedDigits (width n : Nat) : digitsValue 0 (paddedDigits width n) = n := by
  rw [paddedDigits_eq, digitsValue_zeros, digitsValue_toDigits]

lemma toList_fixedPoint (n : Nat) : (fixedPoint 6 n).toList =
    Nat.toDigits 10 (n / 10 ^ 6) ++ '.' :: paddedDigits 6 (n % 10 ^ 6) := by
  have hpoint : ".".toList = ['.'] := rfl
  unfold fixedPoint
  dsimp only
  rw [tenTo_eq, String.toList_append, String.toList_append, hpoint, String.toList_ofList, toList_toString,
    List.append_assoc, List.singleton_append]

/-- Different numbers of millionths have different texts. -/
lemma WritesSixPlaces.fixedPoint_eq_iff (h : WritesSixPlaces k text) : fixedPoint 6 n = text ↔ n = k := by
  obtain ⟨fraction, htext, hlength, hdigits, hvalue⟩ := h
  have hplaces : ∀ m, (paddedDigits 6 (m % 10 ^ 6)).length = 6 :=
    fun m => length_paddedDigits (by decide) (Nat.mod_lt m (by decide))
  rw [← digitsValue_eq_ofDigits] at hvalue
  rw [← String.toList_inj, toList_fixedPoint, htext, toList_toString]
  constructor
  · intro heq
    have hlast : ('.' :: paddedDigits 6 (n % 10 ^ 6)).length = ('.' :: fraction).length := by
      rw [List.length_cons, List.length_cons, hplaces, hlength]
    obtain ⟨hwhole, hrest⟩ := List.append_inj' heq hlast
    have hhigh : n / 10 ^ 6 = k / 10 ^ 6 := by
      rw [← digitsValue_toDigits (n / 10 ^ 6), hwhole, digitsValue_toDigits]
    have hlow : n % 10 ^ 6 = k % 10 ^ 6 := by
      rw [← digitsValue_paddedDigits 6 (n % 10 ^ 6), (List.cons.inj hrest).2, hvalue]
    rw [← Nat.div_add_mod n (10 ^ 6), hhigh, hlow, Nat.div_add_mod]
  · rintro rfl
    have hsame : paddedDigits 6 (n % 10 ^ 6) = fraction := by
      apply eq_of_digitsValue_eq (fun c hc => isDigit_of_mem_paddedDigits hc) hdigits
      · rw [hplaces, hlength]
      · rw [digitsValue_paddedDigits, hvalue]
    rw [hsame]

lemma writesSixPlaces_fixedPoint (k : Nat) : WritesSixPlaces k (fixedPoint 6 k) := by
  have hlow : k % 10 ^ 6 < 10 ^ 6 := Nat.mod_lt k (by decide)
  refine ⟨paddedDigits 6 (k % 10 ^ 6), ?_, length_paddedDigits (by decide) hlow,
    fun c hc => isDigit_of_mem_paddedDigits hc, ?_⟩
  · rw [toList_fixedPoint, toList_toString]
  · rw [← digitsValue_eq_ofDigits, digitsValue_paddedDigits]

lemma WritesSixPlaces.point_mem (h : WritesSixPlaces k text) : '.' ∈ text.toList := by
  obtain ⟨fraction, htext, -⟩ := h
  rw [htext]
  exact List.mem_append_right _ List.mem_cons_self

lemma WritesSixPlaces.isNumeralChar (h : WritesSixPlaces k text) : ∀ c ∈ text.toList, IsNumeralChar c := by
  obtain ⟨fraction, htext, -, hdigits, -⟩ := h
  rw [htext]
  refine List.forall_mem_append.mpr ⟨fun c hc => .inl (isDigit_of_mem_toString hc), ?_⟩
  exact List.forall_mem_cons.mpr ⟨.inr (by decide), fun c hc => .inl (hdigits c hc)⟩

end Places

/-! ### Texts of floats -/

section Texts

variable {bits digits k : Nat} {exponent : Int} {text : String}

/-- The text of a float shows how many millionths it has, as far as a whole number tells. -/
lemma floatText_ofMagnitude (h : bits ≤ binary32.infinity) : floatText (Single.ofMagnitude false bits) =
    if bits = binary32.infinity then "inf"
    else fixedPoint 6 (roundDiv (binary32.numerator bits * 10 ^ 6) (2 ^ 149)) := by
  have hinfinity : binary32.infinity = 0x7F800000 := rfl
  have hbits : (Single.ofMagnitude false bits).bits.toNat = bits := by
    have hword : bits < UInt32.size := h.trans_lt (by decide)
    exact UInt32.toNat_ofNat_of_lt' hword
  have hmagnitude : (Single.ofMagnitude false bits).magnitude = bits := by
    rw [Single.magnitude, hbits]
    omega
  have hsign : (Single.ofMagnitude false bits).isNegative = false := by
    rw [Single.isNegative, decide_eq_false_iff_not, UInt32.le_iff_toNat_le, hbits]
    exact Nat.not_le_of_lt (h.trans_lt (by decide))
  have hlowest : twoTo binary32.lowest = 2 ^ 149 := rfl
  unfold floatText Single.toFixed
  rw [hmagnitude, hsign, if_neg (Nat.not_lt.mpr h)]
  simp only [Bool.false_eq_true, if_false, String.empty_append, tenTo_eq, hlowest]

lemma singleValue_mul (bits : Nat) :
    (singleValue bits * 10 ^ 6 : ℚ) = (binary32.numerator bits * 10 ^ 6 : Nat) / (2 ^ 149 : Nat) := by
  unfold singleValue
  push_cast
  ring

lemma ofDecimal_le_infinity (digits : Nat) (exponent : Int) :
    binary32.ofDecimal digits exponent ≤ binary32.infinity := by
  unfold BinaryFormat.ofDecimal
  split_ifs
  · exact Nat.zero_le _
  · exact le_rfl
  · exact Nat.zero_le _
  · exact min_le_left _ _
  · exact min_le_left _ _

/-- A float that is less than half a millionth away has the same text. -/
lemma floatText_of_near (hvalue : (digits * 10 ^ exponent : ℚ) = k / 10 ^ 6) (hk : 0 < k)
    (htext : WritesSixPlaces k text) {y : ℚ} (hy : IsSingle y) (hnear : |y - k / 10 ^ 6| < 1 / (2 * 10 ^ 6)) :
    floatText (Single.ofMagnitude false (binary32.ofDecimal digits exponent)) = text := by
  have hlow : (1 / 10 ^ 6 : ℚ) ≤ digits * 10 ^ exponent := by
    have hone : (1 : ℚ) ≤ k := by exact_mod_cast hk
    rw [hvalue]
    exact div_le_div_of_nonneg_right hone (by positivity)
  have hunit : |y - digits * 10 ^ exponent| < 1 := by
    rw [hvalue]
    exact hnear.trans (by norm_num)
  obtain ⟨hfinite, hnearest⟩ := ofDecimal_nearest hlow hy hunit
  rw [hvalue] at hnearest
  have hhalf : |(singleValue (binary32.ofDecimal digits exponent) * 10 ^ 6 : ℚ) - k| < 1 / 2 := by
    have hscaled : (singleValue (binary32.ofDecimal digits exponent) * 10 ^ 6 : ℚ) - k =
        (singleValue (binary32.ofDecimal digits exponent) - k / 10 ^ 6) * 10 ^ 6 := by
      field_simp
    rw [hscaled, abs_mul, abs_of_pos (by positivity : (0 : ℚ) < 10 ^ 6), ← lt_div_iff₀ (by positivity)]
    exact (hnearest.trans_lt hnear).trans_eq (by norm_num)
  rw [singleValue_mul] at hhalf
  rw [floatText_ofMagnitude (ofDecimal_le_infinity digits exponent), if_neg hfinite.ne, htext.fixedPoint_eq_iff]
  exact roundDiv_eq_of_abs_lt (by positivity) hhalf

/-- Halfway between two numbers of millionths stands no float if the millionths are tens, as it has no fifths. -/
lemma abs_singleValue_sub_ne (hten : 10 ∣ k) : |(singleValue bits : ℚ) - k / 10 ^ 6| ≠ 1 / (2 * 10 ^ 6) := by
  intro heq
  obtain ⟨j, rfl⟩ := hten
  have hwhole : |((2 * 10 ^ 6 * binary32.numerator bits - 2 * 2 ^ 149 * (10 * j) : ℤ) : ℚ)| = 2 ^ 149 := by
    have hscaled : ((2 * 10 ^ 6 * binary32.numerator bits - 2 * 2 ^ 149 * (10 * j) : ℤ) : ℚ) =
        (singleValue bits - (10 * j : Nat) / 10 ^ 6) * (2 * 10 ^ 6 * 2 ^ 149) := by
      unfold singleValue
      push_cast
      field_simp
      ring
    rw [hscaled, abs_mul, heq, abs_of_pos (by positivity)]
    field_simp
  have hwhole : |(2 * 10 ^ 6 * binary32.numerator bits - 2 * 2 ^ 149 * (10 * j) : ℤ)| = 2 ^ 149 := by
    exact_mod_cast hwhole
  rcases (abs_eq (by positivity)).mp hwhole with hplus | hminus
  · omega
  · omega

lemma exists_near_of_floatText (hten : 10 ∣ k) (htext : WritesSixPlaces k text)
    (h : floatText (Single.ofMagnitude false (binary32.ofDecimal digits exponent)) = text) :
    ∃ y, IsSingle y ∧ |y - k / 10 ^ 6| < 1 / (2 * 10 ^ 6) := by
  have hle := ofDecimal_le_infinity digits exponent
  generalize binary32.ofDecimal digits exponent = bits at h hle
  rw [floatText_ofMagnitude hle] at h
  split_ifs at h with hinfinite
  · have hpoint := htext.point_mem
    rw [← h] at hpoint
    exact absurd hpoint (by decide)
  · have hrounded := htext.fixedPoint_eq_iff.mp h
    have hhalf := abs_roundDiv_sub_le (binary32.numerator bits * 10 ^ 6) (by positivity : 0 < 2 ^ 149)
    rw [hrounded, ← singleValue_mul] at hhalf
    refine ⟨singleValue bits, isSingle_singleValue (lt_of_le_of_ne hle hinfinite), ?_⟩
    refine lt_of_le_of_ne ?_ (abs_singleValue_sub_ne hten)
    have hscaled : (singleValue bits - k / 10 ^ 6 : ℚ) = (singleValue bits * 10 ^ 6 - k) / 10 ^ 6 := by
      field_simp
    rw [hscaled, abs_div, abs_of_pos (by positivity : (0 : ℚ) < 10 ^ 6), div_le_iff₀ (by positivity), abs_sub_comm]
    exact hhalf.trans_eq (by norm_num)

end Texts

/-! ### Filters -/

/-- A name that a filter can spell. -/
structure IsFilterName (name : String) : Prop where
  ne_empty : name ≠ ""
  semicolon : ';' ∉ name.toList
  colon : ':' ∉ name.toList
  trimmed : trimBlanks name.toList = name.toList

section Filters

variable {schema : Schema} {segmenter : Segmenter} {rows : List Row} {row : Row} {name text : String} {n : Nat}

lemma IsNumeralChar.ne {c mark : Char} (h : IsNumeralChar c) (hdigit : isDigit mark = false)
    (hsign : mark ∉ numeralSigns) : c ≠ mark := by
  rintro rfl
  rcases h with hc | hc
  · rw [hdigit] at hc
    exact absurd hc (by decide)
  · exact hsign hc

lemma parse_single (hname : IsFilterName name) (hne : text ≠ "") (htext : ∀ c ∈ text.toList, IsNumeralChar c) :
    Filter.parse (name ++ ":" ++ text) = Filter.empty.allow name [text] := by
  have hmark : ":".toList = [':'] := rfl
  have hfree : ∀ {mark : Char}, isDigit mark = false → mark ∉ numeralSigns → mark ∉ text.toList :=
    fun hdigit hsign hmem => (htext _ hmem).ne hdigit hsign rfl
  have hvalues : trimmedPieces ',' text.toList = [text.toList] := by
    have htrim : trimBlanks text.toList = text.toList := trimBlanks_eq_self fun c hc => (htext c hc).isBlank
    have hsome : text.toList ≠ [] := mt String.toList_eq_nil_iff.mp hne
    unfold trimmedPieces
    rw [pieces_of_notMem (hfree (by decide) (by decide)), List.map_singleton, htrim]
    simp [hsome]
  have hpiece : Filter.piece? (name.toList ++ ':' :: text.toList) = some (name, [text]) := by
    have hkept : ¬(name.toList = [] ∨ [text.toList] = []) := by
      rw [String.toList_eq_nil_iff]
      exact not_or.mpr ⟨hname.ne_empty, List.cons_ne_nil _ _⟩
    rw [piece?_append hname.colon (hfree (by decide) (by decide)), hname.trimmed, hvalues, if_neg hkept]
    simp
  have hwhole : ';' ∉ name.toList ++ ':' :: text.toList := by
    simp only [List.mem_append, List.mem_cons, not_or]
    exact ⟨hname.semicolon, by decide, hfree (by decide) (by decide)⟩
  unfold Filter.parse Filter.merge Filter.piecesOf
  rw [String.toList_append, String.toList_append, hmark, List.append_assoc, List.singleton_append,
    pieces_of_notMem hwhole]
  simp [hpiece]

lemma mem_retained_iff {built : Index} (hbuild : buildIndex schema segmenter (rows.map .ok) = .ok built)
    (hrow : rows[n]? = some row) (filter : Filter) : UInt32.ofNat n ∈ retained built filter ↔
      admitsAll (filter.resolve (AttributeStore.ofSchema schema)) ⟨UInt32.ofNat n, row.values schema⟩ = true := by
  obtain ⟨b, hb, -⟩ := built_buildIndex_rows hbuild
  have hlt : n < rows.length := (List.getElem?_eq_some_iff.mp hrow).1
  have hordinal : (UInt32.ofNat n).toNat = n := UInt32.toNat_ofNat_of_lt' (hlt.trans_le hb.few)
  have hmem : UInt32.ofNat n ∈ (List.range rows.length).map UInt32.ofNat :=
    List.mem_map_of_mem (List.mem_range.mpr hlt)
  rw [retained_buildIndex hbuild, List.mem_filter, and_iff_right hmem, hordinal, hrow, Option.any_some]

lemma rank_le_of_resolve {attributes : AttributeStore} {kind other : Kind} {offset : Nat}
    (h : attributes.resolve name = some (kind, offset)) (hother : name ∈ attributes.names other) :
    rank kind ≤ rank other := by
  obtain ⟨place, hplace⟩ := List.mem_iff_getElem?.mp hother
  by_contra hlater
  exact (firstPlace_of_resolve h).first (other, place) hplace (.inl (Nat.lt_of_not_le hlater))

/-- A filter on a float looks at the text of the float, unless an unsigned attribute has the same name. -/
lemma admitsAll_float_iff (hfloat : name ∈ schema.float) (hpoint : '.' ∈ text.toList) (ordinal : Ordinal) (row : Row) :
    admitsAll ((Filter.empty.allow name [text]).resolve (AttributeStore.ofSchema schema))
        ⟨ordinal, row.values schema⟩ = true ↔
      name ∉ schema.unsigned ∧ floatText (floatValue (row.raw name).toList) = text := by
  rw [admitsAll_single]
  cases hplace : (AttributeStore.ofSchema schema).resolve name with
  | none => exact absurd hfloat (resolve_eq_none_iff.mp hplace .float)
  | some place =>
    obtain ⟨kind, offset⟩ := place
    have hrank : rank kind ≤ rank .float := rank_le_of_resolve hplace hfloat
    have hstands : (schema.attributes kind)[offset]? = some name := (resolve_eq_some_iff.mp hplace).stands
    cases kind with
    | unsigned =>
      have hstands : schema.unsigned[offset]? = some name := hstands
      have hunsigned : ¬(name ∉ schema.unsigned ∧ floatText (floatValue (row.raw name).toList) = text) :=
        fun h => h.1 (List.mem_of_getElem? hstands)
      have hwhole : toString (unsignedValue (row.raw name).toList).toNat ≠ text := by
        rintro rfl
        exact absurd (isDigit_of_mem_toString hpoint) (by decide)
      refine iff_of_false ?_ hunsigned
      simpa [Values.text?, Row.values, hstands] using hwhole
    | float =>
      have hstands : schema.float[offset]? = some name := hstands
      have hunsigned : name ∉ schema.unsigned := by
        intro hmem
        have hearlier : rank .float ≤ rank .unsigned := rank_le_of_resolve hplace hmem
        exact absurd hearlier (by decide)
      rw [and_iff_right hunsigned]
      simp [Values.text?, Row.values, hstands]
    | multi => exact absurd hrank (by decide)
    | string => exact absurd hrank (by decide)

end Filters

/-- The filter on a float for the text with six places of the decimal number that a row has there, which has at most six
digits but for zeros, retains the document of the row exactly when no unsigned attribute has the name and some float is
less than half a millionth away from the number. Below 16 one always is. -/
theorem stored_decimal_is_found_iff {schema : Schema} {segmenter : Segmenter} {rows : List Row} {built : Index}
    (hbuild : buildIndex schema segmenter (rows.map .ok) = .ok built) {n : Nat} {row : Row} (hrow : rows[n]? = some row)
    {name : String} (hname : IsFilterName name) (hfloat : name ∈ schema.float) {digits k : Nat} {exponent : Int}
    (hraw : SpellsFloat ⟨false, digits, exponent⟩ (trimBlanks (row.raw name).toList))
    (hvalue : (digits * 10 ^ exponent : ℚ) = k / 10 ^ 6) (hk : 0 < k) (hdigits : ∃ m e, m < 10 ^ 6 ∧ k = m * 10 ^ e)
    {text : String} (htext : WritesSixPlaces k text) :
    (UInt32.ofNat n ∈ retained built (Filter.parse (name ++ ":" ++ text)) ↔
      name ∉ schema.unsigned ∧ ∃ y, IsSingle y ∧ |y - k / 10 ^ 6| < 1 / (2 * 10 ^ 6)) ∧
      (k < 16 * 10 ^ 6 → ∃ y, IsSingle y ∧ |y - k / 10 ^ 6| < 1 / (2 * 10 ^ 6)) := by
  have hbelow : k < 16 * 10 ^ 6 → ∃ y, IsSingle y ∧ |y - k / 10 ^ 6| < 1 / (2 * 10 ^ 6) := by
    intro hlt
    have hquotient : (k / (10 ^ 6 : Nat) : ℚ) < 16 := by
      rw [div_lt_iff₀ (by positivity)]
      exact_mod_cast hlt
    have hnear := exists_isSingle_near (by decide : 0 < 10 ^ 6) hquotient
    push_cast at hnear
    exact hnear
  refine ⟨?_, hbelow⟩
  have hpoint := htext.point_mem
  have hne : text ≠ "" := by
    rintro rfl
    exact List.not_mem_nil hpoint
  have hstored : floatValue (row.raw name).toList =
      Single.ofMagnitude false (binary32.ofDecimal digits exponent) := by
    have hlongest : IsLongestNumeral (trimBlanks (row.raw name).toList) (trimBlanks (row.raw name).toList) :=
      ⟨List.prefix_rfl, .inr ⟨_, hraw⟩, fun other hother _ => hother.length_le⟩
    exact hlongest.singlePrefixValue.2 _ hraw
  rw [mem_retained_iff hbuild hrow, parse_single hname hne htext.isNumeralChar, admitsAll_float_iff hfloat hpoint,
    hstored]
  refine and_congr_right fun _ => ⟨fun h => ?_, fun ⟨y, hy, hnear⟩ => floatText_of_near hvalue hk htext hy hnear⟩
  rcases Nat.lt_or_ge k (16 * 10 ^ 6) with hlt | hge
  · exact hbelow hlt
  · -- so large a number has no digit in the last place
    obtain ⟨m, e, hm, rfl⟩ := hdigits
    have hten : 10 ∣ m * 10 ^ e := by
      cases e with
      | zero => omega
      | succ e => exact Dvd.dvd.mul_left (Dvd.intro_left _ (pow_succ 10 e).symm) m
    exact exists_near_of_floatText hten htext h

def priced : Schema where
  float := ["price"]
  text := ["body"]

/-- No float is 4.35, but one is near. -/
theorem stored_decimal_is_found_iff_cents :
    ∃ built, buildIndex priced wholeText ([[("price", " 4.35"), ("body", "cat")]].map .ok) = .ok built ∧
      UInt32.ofNat 0 ∈ retained built (Filter.parse ("price" ++ ":" ++ "4.350000")) := by
  obtain ⟨built, hbuild⟩ :
      ∃ built, buildIndex priced wholeText ([[("price", " 4.35"), ("body", "cat")]].map .ok) = .ok built := ⟨_, rfl⟩
  have hname : IsFilterName "price" := ⟨by decide, by decide, by decide, by decide⟩
  have hraw : SpellsFloat ⟨false, 435, -2⟩
      (trimBlanks (Row.raw [("price", " 4.35"), ("body", "cat")] "price").toList) :=
    ofText?_eq_some_iff.mp (by decide +kernel)
  have hplaces : fixedPoint 6 4350000 = "4.350000" := by decide +kernel
  have htext : WritesSixPlaces 4350000 "4.350000" := hplaces ▸ writesSixPlaces_fixedPoint 4350000
  obtain ⟨hfound, hbelow⟩ := stored_decimal_is_found_iff hbuild (n := 0) rfl hname List.mem_cons_self hraw (by norm_num)
    (by decide) ⟨435, 4, by decide, by decide⟩ htext
  exact ⟨built, hbuild, hfound.mpr ⟨List.not_mem_nil, hbelow (by decide)⟩⟩

/-- The float nearest to 1000.1 has another text with six places. A name may also be that of an unsigned attribute, or
be cut at a semicolon. -/
theorem stored_decimals_that_are_not_found :
    (∃ built, buildIndex priced wholeText ([[("price", "1000.1"), ("body", "cat")]].map .ok) = .ok built ∧
      SpellsFloat ⟨false, 10001, -1⟩ "1000.1".toList ∧
      ((10001 : Nat) * 10 ^ (-1 : Int) : ℚ) = (1000100000 : Nat) / 10 ^ 6 ∧ 1000100000 = 10001 * 10 ^ 5 ∧
      WritesSixPlaces 1000100000 "1000.100000" ∧ retained built (Filter.parse "price:1000.100000") = []) ∧
    (∃ built, buildIndex { unsigned := ["price"], float := ["price"] } wholeText ([[("price", "1.5")]].map .ok) =
      .ok built ∧ retained built (Filter.parse "price:1.500000") = []) ∧
    ∃ built, buildIndex { float := ["a;b", "b"] } wholeText ([[("a;b", "1.5"), ("b", "2")]].map .ok) = .ok built ∧
      retained built (Filter.parse "a;b:1.500000") = [] := by
  have hplaces : fixedPoint 6 1000100000 = "1000.100000" := by decide +kernel
  obtain ⟨built, hbuild⟩ :
      ∃ built, buildIndex priced wholeText ([[("price", "1000.1"), ("body", "cat")]].map .ok) = .ok built := ⟨_, rfl⟩
  obtain ⟨both, hboth⟩ : ∃ built, buildIndex { unsigned := ["price"], float := ["price"] } wholeText
      ([[("price", "1.5")]].map .ok) = .ok built := ⟨_, rfl⟩
  obtain ⟨cut, hcut⟩ : ∃ built, buildIndex { float := ["a;b", "b"] } wholeText
      ([[("a;b", "1.5"), ("b", "2")]].map .ok) = .ok built := ⟨_, rfl⟩
  refine ⟨⟨built, hbuild, ?_, by norm_num, rfl, hplaces ▸ writesSixPlaces_fixedPoint 1000100000, ?_⟩,
    ⟨both, hboth, ?_⟩, cut, hcut, ?_⟩
  · exact ofText?_eq_some_iff.mp (by decide +kernel)
  · rw [retained_buildIndex hbuild]
    decide +kernel
  · rw [retained_buildIndex hboth]
    decide +kernel
  · rw [retained_buildIndex hcut]
    decide +kernel

end TextSearch.Proofs
