import Mathlib.Tactic.Lemma
import TextSearch.Attribute.Raw
import TextSearch.Proofs.JsonGrammar
import TextSearch.Proofs.TextPieces

/-!
# Numerals of floats

The numeral that a float is read from is the longest one that its raw text starts with. It is cut off between two
characters, and the reader of floats accepts it, so a float is never zero for want of a better value.
-/

namespace TextSearch.Proofs
open Decimal Unicode

/-! ### The grammar -/

/-- Digits with a point or without, that is `D+`, `D+ . D*` or `. D+`: those before the point, those behind it, and
all of the text. -/
inductive SpellsDecimal : List Char → List Char → List Char → Prop
  | whole {whole : List Char} (h : IsDigits whole) : SpellsDecimal whole [] whole
  | pointed {whole fraction : List Char} (h : IsDigits whole) (hfraction : ∀ c ∈ fraction, isDigit c = true) :
      SpellsDecimal whole fraction (whole ++ '.' :: fraction)
  | fraction {fraction : List Char} (h : IsDigits fraction) : SpellsDecimal [] fraction ('.' :: fraction)

/-- A numeral `[+-]? (D+ | D+ . D* | . D+) ([eE] [+-]? D+)?` and what it denotes. -/
inductive SpellsFloat : Numeral → List Char → Prop
  | parts {negative : Bool} {sign whole fraction body text : List Char} {exponent : Option Int}
      (hsign : SpellsSign negative sign) (hbody : SpellsDecimal whole fraction body)
      (hexponent : SpellsExponent exponent text) :
      SpellsFloat ⟨negative, digitsValue 0 (whole ++ fraction), exponent.getD 0 - fraction.length⟩
        (sign ++ (body ++ text))

def IsFloatNumeral (word : List Char) : Prop := ∃ numeral, SpellsFloat numeral word

/-- The signs in a numeral that are no digits. -/
def numeralSigns : List Char := ['+', '-', '.', 'e', 'E']

def IsNumeralChar (c : Char) : Prop := isDigit c = true ∨ c ∈ numeralSigns

section Grammar

variable {numeral : Numeral} {word sign whole fraction body text : List Char} {negative : Bool} {exponent : Option Int}

lemma SpellsSign.isNumeralChar (h : SpellsSign negative sign) : ∀ c ∈ sign, IsNumeralChar c := by
  cases h <;> simp [IsNumeralChar, numeralSigns]

lemma SpellsDecimal.isNumeralChar (h : SpellsDecimal whole fraction body) : ∀ c ∈ body, IsNumeralChar c := by
  have hpoint : IsNumeralChar '.' := .inr (by decide)
  cases h with
  | whole h => exact fun c hc => .inl (h.2 c hc)
  | pointed h hfraction =>
    refine List.forall_mem_append.mpr ⟨fun c hc => .inl (h.2 c hc), ?_⟩
    exact List.forall_mem_cons.mpr ⟨hpoint, fun c hc => .inl (hfraction c hc)⟩
  | fraction h => exact List.forall_mem_cons.mpr ⟨hpoint, fun c hc => .inl (h.2 c hc)⟩

lemma SpellsExponent.isNumeralChar (h : SpellsExponent exponent text) : ∀ c ∈ text, IsNumeralChar c := by
  cases h with
  | missing => exact List.forall_mem_nil _
  | digits hmark hsign h =>
    refine List.forall_mem_cons.mpr ⟨?_, List.forall_mem_append.mpr ⟨hsign.isNumeralChar, ?_⟩⟩
    · rcases hmark with rfl | rfl <;> exact .inr (by decide)
    · exact fun c hc => .inl (h.2 c hc)

lemma SpellsFloat.isNumeralChar (h : SpellsFloat numeral word) : ∀ c ∈ word, IsNumeralChar c := by
  obtain ⟨hsign, hbody, hexponent⟩ := h
  refine List.forall_mem_append.mpr ⟨hsign.isNumeralChar, ?_⟩
  exact List.forall_mem_append.mpr ⟨hbody.isNumeralChar, hexponent.isNumeralChar⟩

/-- A body starts with a digit or the point. -/
lemma SpellsDecimal.head? (h : SpellsDecimal whole fraction body) :
    ∃ c rest, body = c :: rest ∧ (isDigit c = true ∨ c = '.') := by
  have hcons : ∀ {digits : List Char}, IsDigits digits → ∃ c rest, digits = c :: rest ∧ isDigit c = true := by
    intro digits hdigits
    obtain ⟨c, rest, rfl⟩ := List.exists_cons_of_ne_nil hdigits.1
    exact ⟨c, rest, rfl, hdigits.2 c List.mem_cons_self⟩
  cases h with
  | whole h =>
    obtain ⟨c, rest, rfl, hc⟩ := hcons h
    exact ⟨c, rest, rfl, .inl hc⟩
  | pointed h =>
    obtain ⟨c, rest, rfl, hc⟩ := hcons h
    exact ⟨c, _, rfl, .inl hc⟩
  | fraction h => exact ⟨'.', _, rfl, .inr rfl⟩

lemma SpellsFloat.ne_nil (h : SpellsFloat numeral word) : word ≠ [] := by
  obtain ⟨-, hbody, -⟩ := h
  obtain ⟨c, rest, rfl, -⟩ := hbody.head?
  simp

lemma IsNumeralChar.toNat_le {c : Char} (h : IsNumeralChar c) : c.toNat ≤ 127 := by
  rcases h with hdigit | hsign
  · simp only [isDigit, Bool.and_eq_true, decide_eq_true_eq] at hdigit
    have hhigh : c.toNat ≤ 57 := hdigit.2
    omega
  · simp only [numeralSigns, List.mem_cons, List.not_mem_nil, or_false] at hsign
    rcases hsign with rfl | rfl | rfl | rfl | rfl <;> decide

lemma IsNumeralChar.isBlank {c : Char} (h : IsNumeralChar c) : isBlank c = false := by
  rcases h with hdigit | hsign
  · exact isBlank_of_isDigit hdigit
  · simp only [numeralSigns, List.mem_cons, List.not_mem_nil, or_false] at hsign
    rcases hsign with rfl | rfl | rfl | rfl | rfl <;> decide

end Grammar

/-! ### Characters as bytes -/

def bytesOf (cs : List Char) : List UInt8 := cs.flatMap String.utf8EncodeChar

/-- A short character is its only byte. -/
lemma utf8EncodeChar_of_le {c : Char} (h : c.toNat ≤ 127) :
    c.utf8Size = 1 ∧ ∃ b, String.utf8EncodeChar c = [b] ∧ Char.ofUInt8 b = c := by
  have hone : c.utf8Size = 1 := Char.utf8Size_eq_one_iff.mpr h
  have hbyte : Char.ofUInt8 c.val.toUInt8 = c := by
    apply Char.toNat_inj.mp
    change c.val.toNat % 256 = c.toNat
    have hval : c.val.toNat = c.toNat := rfl
    omega
  exact ⟨hone, _, String.utf8EncodeChar_eq_singleton hone, hbyte⟩

/-- The first byte of any other character is no short character. -/
lemma utf8EncodeChar_of_lt {c : Char} (h : 127 < c.toNat) :
    ∃ b rest, String.utf8EncodeChar c = b :: rest ∧ 127 < (Char.ofUInt8 b).toNat := by
  have hbyte : ∀ k < 256, 127 < k → 127 < (Char.ofUInt8 (UInt8.ofNat k)).toNat := by
    intro k hk hlt
    change 127 < (UInt8.ofNat k).toNat
    rwa [UInt8.toNat_ofNat_of_lt' hk]
  have hval : 127 < c.val.toNat := h
  unfold String.utf8EncodeChar
  generalize c.val.toNat = v at hval
  dsimp only
  rw [if_neg (by omega)]
  split_ifs <;> exact ⟨_, _, rfl, hbyte _ (by omega) (by omega)⟩

section Bytes

variable {cs digits rest front : List Char} {c : Char}

lemma bytesOf_append (xs ys : List Char) : bytesOf (xs ++ ys) = bytesOf xs ++ bytesOf ys := List.flatMap_append

/-- The first byte of a text passes a test that is for short characters only if the first character does. -/
lemma exists_bytesOf_cons {test : Char → Bool} (htest : ∀ c, test c = true → c.toNat ≤ 127) (c : Char)
    (cs : List Char) : ∃ b bytes, bytesOf (c :: cs) = b :: bytes ∧ test (Char.ofUInt8 b) = test c ∧
      (test c = true → bytes = bytesOf cs) := by
  rcases Nat.lt_or_ge 127 c.toNat with hlt | hle
  · obtain ⟨b, more, hb, hlong⟩ := utf8EncodeChar_of_lt hlt
    have hfails : ∀ c, 127 < c.toNat → test c = false := by
      intro c hc
      by_contra hpass
      exact absurd (htest c (by simpa using hpass)) (Nat.not_le.mpr hc)
    refine ⟨b, more ++ bytesOf cs, ?_, (hfails _ hlong).trans (hfails c hlt).symm, ?_⟩
    · rw [bytesOf, List.flatMap_cons, hb]
      rfl
    · rw [hfails c hlt]
      exact fun h => absurd h (by decide)
  · obtain ⟨-, b, hb, rfl⟩ := utf8EncodeChar_of_le hle
    refine ⟨b, bytesOf cs, ?_, rfl, fun _ => rfl⟩
    rw [bytesOf, List.flatMap_cons, hb]
    rfl

lemma length_bytesOf (h : ∀ c ∈ cs, c.toNat ≤ 127) : (bytesOf cs).length = cs.length := by
  induction cs with
  | nil => rfl
  | cons c cs ih =>
    obtain ⟨hc, hcs⟩ := List.forall_mem_cons.mp h
    obtain ⟨-, b, hb, -⟩ := utf8EncodeChar_of_le hc
    rw [bytesOf, List.flatMap_cons, hb, List.singleton_append, List.length_cons, List.length_cons]
    exact congrArg (· + 1) (ih hcs)

lemma drop_bytesOf (h : ∀ c ∈ front, c.toNat ≤ 127) (rest : List Char) :
    (bytesOf (front ++ rest)).drop front.length = bytesOf rest := by
  rw [bytesOf_append, List.drop_left' (length_bytesOf h)]

lemma takeBytes?_append (h : ∀ c ∈ front, c.toNat ≤ 127) (rest : List Char) :
    Utf8.takeBytes? front.length (front ++ rest) = some front := by
  induction front with
  | nil => cases rest <;> rfl
  | cons c front ih =>
    obtain ⟨hc, hfront⟩ := List.forall_mem_cons.mp h
    obtain ⟨hone, -⟩ := utf8EncodeChar_of_le hc
    rw [List.length_cons, List.cons_append, Utf8.takeBytes?, hone, if_pos (Nat.le_add_left _ _),
      Nat.add_sub_cancel, ih hfront, Option.map_some]

/-! ### Parts of numerals -/

lemma toNat_le_of_isDigit (c : Char) (h : isDigit c = true) : c.toNat ≤ 127 := IsNumeralChar.toNat_le (.inl h)

lemma toNat_le_of_beq {a : Char} (ha : a.toNat ≤ 127) (c : Char) (h : (c == a) = true) : c.toNat ≤ 127 :=
  (beq_iff_eq.mp h) ▸ ha

lemma toNat_le_of_beq_or {a b : Char} (ha : a.toNat ≤ 127) (hb : b.toNat ≤ 127) (c : Char)
    (h : (c == a || c == b) = true) : c.toNat ≤ 127 :=
  (Bool.or_eq_true_iff.mp h).elim (toNat_le_of_beq ha c) (toNat_le_of_beq hb c)

lemma digitsLength_eq_zero (h : ∀ c ∈ rest.head?, isDigit c = false) : digitsLength (bytesOf rest) = 0 := by
  cases rest with
  | nil => rfl
  | cons c rest =>
    obtain ⟨b, bytes, hbytes, hb, -⟩ := exists_bytesOf_cons toNat_le_of_isDigit c rest
    simp only [digitsLength, hbytes, List.takeWhile_cons, hb, h c rfl]
    rfl

lemma digitsLength_append (h : ∀ c ∈ digits, isDigit c = true) (rest : List Char) :
    digitsLength (bytesOf (digits ++ rest)) = digits.length + digitsLength (bytesOf rest) := by
  induction digits with
  | nil => simp
  | cons c digits ih =>
    obtain ⟨hc, hdigits⟩ := List.forall_mem_cons.mp h
    obtain ⟨b, bytes, hbytes, hb, hmore⟩ := exists_bytesOf_cons toNat_le_of_isDigit c (digits ++ rest)
    have ih := ih hdigits
    unfold digitsLength at ih ⊢
    simp only [List.cons_append, hbytes, List.takeWhile_cons, hb, hc, if_true, List.length_cons, hmore hc, ih]
    omega

lemma signLength_append {negative : Bool} {sign : List Char} (h : SpellsSign negative sign)
    (hrest : sign = [] → ∀ c ∈ rest.head?, c ≠ '+' ∧ c ≠ '-') : signLength (bytesOf (sign ++ rest)) = sign.length := by
  have htest := toNat_le_of_beq_or (a := '+') (b := '-') (by decide) (by decide)
  have hcons : ∀ c cs, signLength (bytesOf (c :: cs)) = if c == '+' || c == '-' then 1 else 0 := by
    intro c cs
    obtain ⟨b, bytes, hbytes, hb, -⟩ := exists_bytesOf_cons htest c cs
    rw [hbytes, signLength, hb]
  cases h with
  | plus => exact hcons _ _
  | minus => exact hcons _ _
  | missing =>
    cases rest with
    | nil => rfl
    | cons c rest =>
      obtain ⟨hplus, hminus⟩ := hrest rfl c rfl
      rw [List.nil_append, hcons, if_neg (by simp [hplus, hminus]), List.length_nil]

lemma fractionLength_cons (c : Char) (cs : List Char) :
    fractionLength (bytesOf (c :: cs)) = if c = '.' then 1 + digitsLength (bytesOf cs) else 0 := by
  obtain ⟨b, bytes, hbytes, hb, hmore⟩ := exists_bytesOf_cons (toNat_le_of_beq (a := '.') (by decide)) c cs
  rw [hbytes, fractionLength, hb]
  by_cases hc : c = '.'
  · rw [hmore (by simpa using hc), if_pos hc, if_pos (by simpa using hc)]
  · rw [if_neg hc, if_neg (by simpa using hc)]

lemma exponentLength_cons {negative : Bool} {sign : List Char} (h : SpellsSign negative sign)
    (hrest : sign = [] → ∀ c ∈ rest.head?, c ≠ '+' ∧ c ≠ '-') (c : Char) :
    exponentLength (bytesOf (c :: (sign ++ rest))) =
      if (c = 'e' ∨ c = 'E') ∧ digitsLength (bytesOf rest) ≠ 0 then 1 + sign.length + digitsLength (bytesOf rest)
      else 0 := by
  have htest := toNat_le_of_beq_or (a := 'e') (b := 'E') (by decide) (by decide)
  obtain ⟨b, bytes, hbytes, hb, hmore⟩ := exists_bytesOf_cons htest c (sign ++ rest)
  have hsign : ∀ c ∈ sign, c.toNat ≤ 127 := fun c hc => (h.isNumeralChar c hc).toNat_le
  rw [hbytes, exponentLength, hb]
  by_cases hc : c = 'e' ∨ c = 'E'
  · have hmark : (c == 'e' || c == 'E') = true := by simpa using hc
    rw [if_pos hmark, hmore hmark, signLength_append h hrest]
    dsimp only
    rw [drop_bytesOf hsign]
    by_cases hnone : digitsLength (bytesOf rest) = 0 <;> simp [hc, hnone]
  · rw [if_neg (by simpa using hc), if_neg fun hboth => hc hboth.1]

end Bytes

/-! ### Cutting off -/

section Cutting

variable {cs rest whole fraction body text : List Char} {negative : Bool} {exponent : Option Int}

lemma exists_sign (cs : List Char) : ∃ negative sign rest, SpellsSign negative sign ∧ cs = sign ++ rest ∧
    (sign = [] → ∀ c ∈ rest.head?, c ≠ '+' ∧ c ≠ '-') := by
  cases cs with
  | nil => exact ⟨false, [], [], .missing, rfl, by simp⟩
  | cons c cs =>
    by_cases hplus : c = '+'
    · exact ⟨false, ['+'], cs, .plus, by rw [hplus]; rfl, by simp⟩
    · by_cases hminus : c = '-'
      · exact ⟨true, ['-'], cs, .minus, by rw [hminus]; rfl, by simp⟩
      · exact ⟨false, [], c :: cs, .missing, rfl, by simp [hplus, hminus]⟩

/-- What follows digits cannot go on with a point or more digits. -/
def EndsDecimal (rest : List Char) : Prop := ∀ c ∈ rest.head?, isDigit c = false ∧ c ≠ '.'

lemma fractionLength_eq_zero (h : ∀ c ∈ rest.head?, c ≠ '.') : fractionLength (bytesOf rest) = 0 := by
  cases rest with
  | nil => rfl
  | cons c rest => rw [fractionLength_cons, if_neg (h c rfl)]

lemma toNat_le_of_digits (h : ∀ c ∈ whole, isDigit c = true) : ∀ c ∈ whole, c.toNat ≤ 127 :=
  fun c hc => toNat_le_of_isDigit c (h c hc)

/-- Digits up to something else, and what a fraction behind them takes. -/
lemma decimalLength_append (h : ∀ c ∈ whole, isDigit c = true) (hrest : ∀ c ∈ rest.head?, isDigit c = false) :
    decimalLength (bytesOf (whole ++ rest)) =
      if whole = [] ∧ fractionLength (bytesOf rest) ≤ 1 then 0
      else whole.length + fractionLength (bytesOf rest) := by
  unfold decimalLength
  rw [digitsLength_append h, digitsLength_eq_zero hrest, Nat.add_zero]
  dsimp only
  rw [drop_bytesOf (toNat_le_of_digits h)]
  simp only [List.length_eq_zero_iff]

/-- Digits on both sides of a point, one at least. -/
lemma decimalLength_pointed (h : ∀ c ∈ whole, isDigit c = true) (hfraction : ∀ c ∈ fraction, isDigit c = true)
    (hne : whole = [] → fraction ≠ []) (rest : List Char) :
    decimalLength (bytesOf (whole ++ '.' :: (fraction ++ rest))) =
      whole.length + (1 + (fraction.length + digitsLength (bytesOf rest))) := by
  have hpoint : ∀ c ∈ ('.' :: (fraction ++ rest)).head?, isDigit c = false := by
    rintro _ ⟨⟩
    decide
  have hlength : fractionLength (bytesOf ('.' :: (fraction ++ rest))) =
      1 + (fraction.length + digitsLength (bytesOf rest)) := by
    rw [fractionLength_cons, if_pos rfl, digitsLength_append hfraction]
  rw [decimalLength_append h hpoint, hlength, if_neg]
  rintro ⟨hnil, hle⟩
  have hpos : 0 < fraction.length := List.length_pos_iff.mpr (hne hnil)
  omega

/-- Either there is no point, or there is one, and digits on one of its sides at least. -/
lemma SpellsDecimal.forms (h : SpellsDecimal whole fraction body) :
    (IsDigits whole ∧ fraction = [] ∧ body = whole) ∨
      ((∀ c ∈ whole, isDigit c = true) ∧ (∀ c ∈ fraction, isDigit c = true) ∧ (whole = [] → fraction ≠ []) ∧
        body = whole ++ '.' :: fraction) := by
  cases h with
  | whole h => exact .inl ⟨h, rfl, rfl⟩
  | pointed h hfraction => exact .inr ⟨h.2, hfraction, fun hnil => absurd hnil h.1, rfl⟩
  | fraction h => exact .inr ⟨List.forall_mem_nil _, h.2, fun _ => h.1, rfl⟩

lemma SpellsDecimal.length_le (h : SpellsDecimal whole fraction body) (rest : List Char) :
    body.length ≤ decimalLength (bytesOf (body ++ rest)) := by
  rcases h.forms with ⟨hwhole, -, rfl⟩ | ⟨hwhole, hfraction, hne, rfl⟩
  · obtain ⟨more, rest, hmore, rfl, hrest⟩ := exists_digits rest
    have hdigits : ∀ c ∈ body ++ more, isDigit c = true := List.forall_mem_append.mpr ⟨hwhole.2, hmore⟩
    have hnone : ¬(body ++ more = [] ∧ fractionLength (bytesOf rest) ≤ 1) := by simp [hwhole.1]
    rw [← List.append_assoc, decimalLength_append hdigits hrest, if_neg hnone, List.length_append]
    omega
  · rw [List.append_assoc, List.cons_append, decimalLength_pointed hwhole hfraction hne]
    simp only [List.length_append, List.length_cons]
    omega

lemma SpellsDecimal.length_eq (h : SpellsDecimal whole fraction body) (hrest : EndsDecimal rest) :
    decimalLength (bytesOf (body ++ rest)) = body.length := by
  have hnodigit : ∀ c ∈ rest.head?, isDigit c = false := fun c hc => (hrest c hc).1
  rcases h.forms with ⟨hwhole, -, rfl⟩ | ⟨hwhole, hfraction, hne, rfl⟩
  · have hnopoint : fractionLength (bytesOf rest) = 0 := fractionLength_eq_zero fun c hc => (hrest c hc).2
    rw [decimalLength_append hwhole.2 hnodigit, hnopoint, if_neg fun hnil => hwhole.1 hnil.1, Nat.add_zero]
  · rw [List.append_assoc, List.cons_append, decimalLength_pointed hwhole hfraction hne, digitsLength_eq_zero hnodigit]
    simp only [List.length_append, List.length_cons]
    omega

lemma point_or_not (cs : List Char) : (∃ rest, cs = '.' :: rest) ∨ ∀ c ∈ cs.head?, c ≠ '.' := by
  refine or_iff_not_imp_left.mpr fun hnone => ?_
  rintro _ hc rfl
  exact hnone (List.head?_eq_some_iff.mp (Option.mem_def.mp hc))

lemma exists_decimal (cs : List Char) : decimalLength (bytesOf cs) = 0 ∨
    ∃ whole fraction body rest, SpellsDecimal whole fraction body ∧ cs = body ++ rest ∧
      decimalLength (bytesOf cs) = body.length := by
  obtain ⟨whole, tail, hwhole, rfl, htail⟩ := exists_digits cs
  rcases point_or_not tail with ⟨rest, rfl⟩ | hpoint
  · obtain ⟨fraction, rest, hfraction, rfl, hrest⟩ := exists_digits rest
    by_cases hnil : whole = []
    · subst hnil
      by_cases hnone : fraction = []
      · subst hnone
        left
        rw [decimalLength_append hwhole htail, fractionLength_cons, if_pos rfl, List.nil_append,
          digitsLength_eq_zero hrest, if_pos ⟨rfl, le_rfl⟩]
      · right
        refine ⟨[], fraction, '.' :: fraction, rest, .fraction ⟨hnone, hfraction⟩, rfl, ?_⟩
        rw [decimalLength_pointed hwhole hfraction fun _ => hnone, digitsLength_eq_zero hrest]
        simp only [List.length_nil, List.length_cons]
        omega
    · right
      refine ⟨whole, fraction, whole ++ '.' :: fraction, rest, .pointed ⟨hnil, hwhole⟩ hfraction, by simp, ?_⟩
      rw [decimalLength_pointed hwhole hfraction fun hnone => absurd hnone hnil, digitsLength_eq_zero hrest]
      simp only [List.length_append, List.length_cons]
      omega
  · rw [decimalLength_append hwhole htail, fractionLength_eq_zero hpoint]
    by_cases hnil : whole = []
    · exact .inl (if_pos ⟨hnil, Nat.zero_le 1⟩)
    · right
      refine ⟨whole, [], whole, tail, .whole ⟨hnil, hwhole⟩, rfl, ?_⟩
      rw [if_neg fun hnone => hnil hnone.1, Nat.add_zero]

lemma exists_exponent (cs : List Char) : ∃ exponent text rest, SpellsExponent exponent text ∧ cs = text ++ rest ∧
    exponentLength (bytesOf cs) = text.length := by
  cases cs with
  | nil => exact ⟨none, [], [], .missing, rfl, rfl⟩
  | cons c cs =>
    obtain ⟨negative, sign, rest, hsign, rfl, hnosign⟩ := exists_sign cs
    obtain ⟨digits, rest, hdigits, rfl, hrest⟩ := exists_digits rest
    have hlength : digitsLength (bytesOf (digits ++ rest)) = digits.length := by
      rw [digitsLength_append hdigits, digitsLength_eq_zero hrest, Nat.add_zero]
    rw [exponentLength_cons hsign hnosign, hlength]
    by_cases hpart : (c = 'e' ∨ c = 'E') ∧ digits.length ≠ 0
    · have hne : digits ≠ [] := List.length_pos_iff.mp (Nat.pos_of_ne_zero hpart.2)
      refine ⟨_, c :: (sign ++ digits), rest, .digits hpart.1 hsign ⟨hne, hdigits⟩, by simp, ?_⟩
      rw [if_pos hpart]
      simp only [List.length_append, List.length_cons]
      omega
    · exact ⟨none, [], _, .missing, rfl, if_neg hpart⟩

lemma SpellsExponent.length_le (h : SpellsExponent exponent text) (rest : List Char) :
    text.length ≤ exponentLength (bytesOf (text ++ rest)) := by
  cases h with
  | missing => exact Nat.zero_le _
  | @digits mark negative sign digits hmark hsign hdigits =>
    have hpos : 0 < digits.length := List.length_pos_iff.mpr hdigits.1
    rw [List.cons_append, List.append_assoc, exponentLength_cons hsign fun _ => hdigits.noSign rest,
      digitsLength_append hdigits.2, if_pos ⟨hmark, by omega⟩]
    simp only [List.length_append, List.length_cons]
    omega

lemma numeralLength_append {sign : List Char} (h : SpellsSign negative sign)
    (hrest : sign = [] → ∀ c ∈ rest.head?, c ≠ '+' ∧ c ≠ '-') :
    numeralLength (bytesOf (sign ++ rest)) =
      if decimalLength (bytesOf rest) = 0 then 0
      else sign.length + decimalLength (bytesOf rest) +
        exponentLength ((bytesOf rest).drop (decimalLength (bytesOf rest))) := by
  have hdrop : (bytesOf (sign ++ rest)).drop sign.length = bytesOf rest :=
    drop_bytesOf (fun c hc => (h.isNumeralChar c hc).toNat_le) rest
  unfold numeralLength
  rw [signLength_append h hrest]
  dsimp only
  rw [← List.drop_drop, hdrop]

/-- What is cut off is a numeral. -/
lemma exists_numeral (cs : List Char) : numeralLength (bytesOf cs) = 0 ∨
    ∃ numeral word rest, SpellsFloat numeral word ∧ cs = word ++ rest ∧
      numeralLength (bytesOf cs) = word.length := by
  obtain ⟨negative, sign, tail, hsign, rfl, hnosign⟩ := exists_sign cs
  rw [numeralLength_append hsign hnosign]
  rcases exists_decimal tail with hnone | ⟨whole, fraction, body, tail, hbody, rfl, hlength⟩
  · exact .inl (if_pos hnone)
  · obtain ⟨exponent, text, rest, hexponent, rfl, hmore⟩ := exists_exponent tail
    obtain ⟨c, digits, hcons, -⟩ := hbody.head?
    have hpos : body.length ≠ 0 := by
      rw [hcons]
      exact Nat.succ_ne_zero _
    have hascii : ∀ c ∈ body, c.toNat ≤ 127 := fun c hc => (hbody.isNumeralChar c hc).toNat_le
    refine .inr ⟨_, sign ++ (body ++ text), rest, .parts hsign hbody hexponent, by simp, ?_⟩
    rw [hlength, if_neg hpos, drop_bytesOf hascii, hmore]
    simp only [List.length_append]
    omega

/-- No numeral at the front is longer than what is cut off. -/
lemma SpellsFloat.length_le {numeral : Numeral} {word : List Char} (h : SpellsFloat numeral word) (rest : List Char) :
    word.length ≤ numeralLength (bytesOf (word ++ rest)) := by
  obtain ⟨hsign, hbody, hexponent⟩ := h
  rename_i negative sign whole fraction body text exponent
  have hnosign : sign = [] → ∀ c ∈ (body ++ (text ++ rest)).head?, c ≠ '+' ∧ c ≠ '-' := by
    obtain ⟨d, more, rfl, hd⟩ := hbody.head?
    rintro - _ ⟨⟩
    constructor <;> rintro rfl <;> exact absurd hd (by decide)
  obtain ⟨c, digits, hcons, -⟩ := hbody.head?
  have hpos : 0 < body.length := by
    rw [hcons]
    exact Nat.succ_pos _
  have hle := hbody.length_le (text ++ rest)
  rw [List.append_assoc, List.append_assoc, numeralLength_append hsign hnosign, if_neg (by omega)]
  -- only in front of an exponent does it matter that nothing else is cut off with the digits
  cases hexponent with
  | missing =>
    simp only [List.length_append, List.length_nil]
    omega
  | @digits mark negative sign digits hmark hsign hdigits =>
    have hends : EndsDecimal (mark :: (sign ++ digits) ++ rest) := by
      rintro _ ⟨⟩
      rcases hmark with rfl | rfl <;> decide
    have hexact := hbody.length_eq hends
    have hascii : ∀ c ∈ body, c.toNat ≤ 127 := fun c hc => (hbody.isNumeralChar c hc).toNat_le
    have hmore := (SpellsExponent.digits hmark hsign hdigits).length_le rest
    rw [hexact, drop_bytesOf hascii, List.length_append, List.length_append]
    omega

end Cutting

/-! ### Reading -/

section Reading

variable {cs rest whole fraction body text : List Char} {negative : Bool} {exponent : Option Int}

lemma exponent?_cons {sign digits : List Char} (h : SpellsSign negative sign)
    (hrest : sign = [] → ∀ c ∈ digits.head?, c ≠ '+' ∧ c ≠ '-') (c : Char) (e : Int) :
    exponent? (c :: (sign ++ digits)) = some e ↔ (c = 'e' ∨ c = 'E') ∧ IsDigits digits ∧
      (if negative then -(digitsValue 0 digits : Int) else digitsValue 0 digits) = e := by
  have hdigits : (digits.isEmpty || !digits.all isDigit) = true ↔ ¬IsDigits digits := by
    by_cases hnil : digits = [] <;> simp [IsDigits, hnil]
  rw [exponent?, takeSign_of_spells h hrest]
  by_cases hc : c = 'e' ∨ c = 'E'
  · have hmark : (c == 'e' || c == 'E') = true := by simpa using hc
    by_cases hall : IsDigits digits
    · rw [if_pos hmark]
      dsimp only
      rw [if_neg (mt hdigits.mp (not_not_intro hall)), Option.some.injEq]
      exact ⟨fun he => ⟨hc, hall, he⟩, fun hparts => hparts.2.2⟩
    · rw [if_pos hmark]
      dsimp only
      rw [if_pos (hdigits.mpr hall)]
      exact iff_of_false (by simp) fun hparts => hall hparts.2.1
  · rw [if_neg (by simpa using hc)]
    exact iff_of_false (by simp) fun hparts => hc hparts.1

lemma exponent?_eq_some_iff {e : Int} :
    exponent? text = some e ↔ ∃ exponent, SpellsExponent exponent text ∧ exponent.getD 0 = e := by
  constructor
  · intro h
    cases text with
    | nil => exact ⟨none, .missing, Option.some.inj h⟩
    | cons c text =>
      obtain ⟨negative, sign, digits, hsign, rfl, hnosign⟩ := exists_sign text
      obtain ⟨hmark, hdigits, he⟩ := (exponent?_cons hsign hnosign c e).mp h
      exact ⟨_, .digits hmark hsign hdigits, he⟩
  · rintro ⟨exponent, h, rfl⟩
    cases h with
    | missing => rfl
    | @digits mark negative sign digits hmark hsign hdigits =>
      have hnosign := hdigits.noSign []
      rw [List.append_nil] at hnosign
      exact (exponent?_cons hsign (fun _ => hnosign) mark _).mpr ⟨hmark, hdigits, rfl⟩

lemma ofText?_append {sign : List Char} (h : SpellsSign negative sign)
    (hnosign : sign = [] → ∀ c ∈ (whole ++ rest).head?, c ≠ '+' ∧ c ≠ '-') (hwhole : ∀ c ∈ whole, isDigit c = true)
    (hrest : ∀ c ∈ rest.head?, isDigit c = false) :
    Numeral.ofText? (sign ++ (whole ++ rest)) =
      if whole = [] ∧ fractionDigits rest = [] then none
      else (exponent? (afterFraction rest)).map fun exponent =>
        ⟨negative, digitsValue 0 (whole ++ fractionDigits rest), exponent - ((fractionDigits rest).length : Int)⟩ := by
  unfold Numeral.ofText?
  rw [takeSign_of_spells h hnosign]
  dsimp only
  rw [leadingDigits_append hwhole hrest, afterDigits_append hwhole hrest]
  simp only [Bool.and_eq_true, List.isEmpty_iff]

lemma fraction_of_ne (h : ∀ c ∈ rest.head?, c ≠ '.') : fractionDigits rest = [] ∧ afterFraction rest = rest := by
  unfold fractionDigits afterFraction
  split
  · exact absurd rfl (h '.' rfl)
  · exact ⟨rfl, rfl⟩

lemma fraction_of_point (hfraction : ∀ c ∈ fraction, isDigit c = true) (hrest : ∀ c ∈ rest.head?, isDigit c = false) :
    fractionDigits ('.' :: (fraction ++ rest)) = fraction ∧ afterFraction ('.' :: (fraction ++ rest)) = rest :=
  ⟨leadingDigits_append hfraction hrest, afterDigits_append hfraction hrest⟩

/-- What the reader takes for the digits of a numeral, if there are any, is of the grammar. -/
lemma exists_spellsDecimal (hwhole : ∀ c ∈ whole, isDigit c = true) (hsome : ¬(whole = [] ∧ fractionDigits rest = [])) :
    ∃ body, SpellsDecimal whole (fractionDigits rest) body ∧ whole ++ rest = body ++ afterFraction rest := by
  rcases point_or_not rest with ⟨more, rfl⟩ | hpoint
  · obtain ⟨fraction, more, hfraction, rfl, hmore⟩ := exists_digits more
    obtain ⟨hdigits, hafter⟩ := fraction_of_point hfraction hmore
    rw [hdigits] at hsome ⊢
    rw [hafter]
    by_cases hnil : whole = []
    · subst hnil
      exact ⟨_, .fraction ⟨fun hnone => hsome ⟨rfl, hnone⟩, hfraction⟩, rfl⟩
    · exact ⟨_, .pointed ⟨hnil, hwhole⟩ hfraction, by rw [List.append_assoc, List.cons_append]⟩
  · obtain ⟨hdigits, hafter⟩ := fraction_of_ne hpoint
    rw [hdigits] at hsome ⊢
    rw [hafter]
    exact ⟨whole, .whole ⟨fun hnil => hsome ⟨hnil, rfl⟩, hwhole⟩, rfl⟩

/-- The reader cuts digits of the grammar as the grammar does, whatever text of no digit and no point follows. -/
lemma SpellsDecimal.exists_rest (h : SpellsDecimal whole fraction body)
    (htext : ∀ c ∈ text.head?, isDigit c = false ∧ c ≠ '.') :
    ∃ rest, body ++ text = whole ++ rest ∧ fractionDigits rest = fraction ∧ afterFraction rest = text ∧
      (∀ c ∈ whole, isDigit c = true) ∧ (∀ c ∈ rest.head?, isDigit c = false) ∧ ¬(whole = [] ∧ fraction = []) := by
  rcases h.forms with ⟨hwhole, rfl, rfl⟩ | ⟨hwhole, hfraction, hne, rfl⟩
  · obtain ⟨hdigits, hafter⟩ := fraction_of_ne fun c hc => (htext c hc).2
    exact ⟨text, rfl, hdigits, hafter, hwhole.2, fun c hc => (htext c hc).1, fun hnone => hwhole.1 hnone.1⟩
  · obtain ⟨hdigits, hafter⟩ := fraction_of_point hfraction fun c hc => (htext c hc).1
    refine ⟨_, by rw [List.append_assoc, List.cons_append], hdigits, hafter, hwhole, ?_, fun hnone => hne hnone.1 hnone.2⟩
    rintro _ ⟨⟩
    decide

/-- The reader of numerals accepts the texts of the grammar and no others. -/
lemma ofText?_eq_some_iff {numeral : Numeral} {word : List Char} :
    Numeral.ofText? word = some numeral ↔ SpellsFloat numeral word := by
  constructor
  · intro h
    obtain ⟨negative, sign, tail, hsign, rfl, hnosign⟩ := exists_sign word
    obtain ⟨whole, rest, hwhole, rfl, hrest⟩ := exists_digits tail
    rw [ofText?_append hsign hnosign hwhole hrest] at h
    split_ifs at h with hnone
    obtain ⟨e, he, rfl⟩ := Option.map_eq_some_iff.mp h
    obtain ⟨exponent, hexponent, rfl⟩ := exponent?_eq_some_iff.mp he
    obtain ⟨body, hbody, hword⟩ := exists_spellsDecimal hwhole hnone
    rw [hword]
    exact .parts hsign hbody hexponent
  · rintro ⟨hsign, hbody, hexponent⟩
    rename_i negative sign whole fraction body text exponent
    have he : exponent? text = some (exponent.getD 0) := exponent?_eq_some_iff.mpr ⟨exponent, hexponent, rfl⟩
    have hnosign : sign = [] → ∀ c ∈ (body ++ text).head?, c ≠ '+' ∧ c ≠ '-' := by
      obtain ⟨d, more, rfl, hd⟩ := hbody.head?
      rintro - _ ⟨⟩
      constructor <;> rintro rfl <;> exact absurd hd (by decide)
    obtain ⟨rest, hword, rfl, rfl, hwhole, hrest, hsome⟩ := hbody.exists_rest hexponent.head?
    rw [hword] at hnosign ⊢
    rw [ofText?_append hsign hnosign hwhole hrest, he, if_neg hsome]
    rfl

lemma SpellsFloat.ofText? {numeral : Numeral} {word : List Char} (h : SpellsFloat numeral word) :
    Single.ofText? word = some numeral.toSingle := by
  rw [Single.ofText?, ofText?_eq_some_iff.mpr h]

end Reading

/-! ### The longest numeral -/

/-- The longest numeral that a text starts with; nothing if it starts with none. -/
structure IsLongestNumeral (cs word : List Char) : Prop where
  front : word <+: cs
  numeral : word = [] ∨ IsFloatNumeral word
  longest : ∀ other, other <+: cs → IsFloatNumeral other → other.length ≤ word.length

section Longest

variable {cs word other raw extra : List Char}

lemma IsLongestNumeral.isNumeralChar (h : IsLongestNumeral cs word) : ∀ c ∈ word, IsNumeralChar c := by
  rcases h.numeral with rfl | ⟨numeral, hword⟩
  · exact List.forall_mem_nil _
  · exact hword.isNumeralChar

lemma IsLongestNumeral.unique (h : IsLongestNumeral cs word) (hother : IsLongestNumeral cs other) : word = other := by
  have hle : ∀ {a b}, IsLongestNumeral cs a → IsLongestNumeral cs b → a.length ≤ b.length := by
    intro a b ha hb
    rcases ha.numeral with rfl | hnumeral
    · exact Nat.zero_le _
    · exact hb.longest a ha.front hnumeral
  have hlength : word.length = other.length := Nat.le_antisymm (hle h hother) (hle hother h)
  exact (List.prefix_of_prefix_length_le h.front hother.front hlength.le).eq_of_length hlength

lemma exists_longest (cs : List Char) :
    ∃ word, IsLongestNumeral cs word ∧ numeralLength (bytesOf cs) = word.length := by
  have hlongest : ∀ other, other <+: cs → IsFloatNumeral other → other.length ≤ numeralLength (bytesOf cs) := by
    rintro other ⟨rest, rfl⟩ ⟨numeral, hother⟩
    exact hother.length_le rest
  rcases exists_numeral cs with hnone | ⟨numeral, word, rest, hword, rfl, hlength⟩
  · rw [hnone] at hlongest ⊢
    exact ⟨[], ⟨List.nil_prefix, .inl rfl, hlongest⟩, rfl⟩
  · rw [hlength] at hlongest ⊢
    exact ⟨word, ⟨List.prefix_append _ _, .inr ⟨numeral, hword⟩, hlongest⟩, rfl⟩

lemma encode_ofList (cs : List Char) : Utf8.encode (String.ofList cs) = bytesOf cs := by
  rw [Utf8.encode, String.toList_ofList]
  rfl

/-- The value of a text is that of its longest numeral. -/
lemma IsLongestNumeral.singlePrefixValue (h : IsLongestNumeral cs word) :
    (word = [] → Decimal.singlePrefixValue cs = Single.ofMagnitude false 0) ∧
      ∀ numeral, SpellsFloat numeral word → Decimal.singlePrefixValue cs = numeral.toSingle := by
  obtain ⟨other, hother, hlength⟩ := exists_longest cs
  obtain rfl := h.unique hother
  obtain ⟨rest, rfl⟩ := h.front
  have hascii : ∀ c ∈ word, c.toNat ≤ 127 := fun c hc => (h.isNumeralChar c hc).toNat_le
  unfold Decimal.singlePrefixValue
  rw [encode_ofList, hlength]
  refine ⟨fun hnil => if_pos (by rw [hnil]; rfl), fun numeral hnumeral => ?_⟩
  have hne : word.length ≠ 0 := (List.length_pos_iff.mpr hnumeral.ne_nil).ne'
  rw [if_neg hne, takeBytes?_append hascii, Option.bind_some, hnumeral.ofText?, Option.getD_some]

/-- A text behind a raw value makes no difference to the longest numeral if no longer one comes from it. -/
lemma IsLongestNumeral.append (h : IsLongestNumeral (trimBlanks raw) word)
    (hextra : ∀ other, other <+: trimBlanks (raw ++ extra) → IsFloatNumeral other → other <+: trimBlanks raw) :
    IsLongestNumeral (trimBlanks (raw ++ extra)) word where
  front := by
    by_cases hne : word = []
    · rw [hne]
      exact List.nil_prefix
    · obtain ⟨before, after, hbefore, -, hraw⟩ := exists_eq_padded raw
      obtain ⟨rest, hrest⟩ := h.front
      have hsplit : raw ++ extra = before ++ (word ++ (rest ++ after ++ extra)) := by
        conv_lhs => rw [hraw, ← hrest]
        simp only [List.append_assoc]
      have hnoblank : ∀ c ∈ word, isBlank c = false := fun c hc => (h.isNumeralChar c hc).isBlank
      rw [hsplit]
      apply prefix_trimBlanks hbefore hne
      · exact (Option.any_eq_false _ _).mpr fun c hc => hnoblank c (List.mem_of_head? hc)
      · exact (Option.any_eq_false _ _).mpr fun c hc => hnoblank c (List.mem_of_getLast? hc)
  numeral := h.numeral
  longest := fun other hother hnumeral => h.longest other (hextra other hother hnumeral) hnumeral

lemma isSome_ofText?_iff : (Single.ofText? word).isSome = true ↔
    IsFloatNumeral word ∨ (namedMagnitude? (takeSign word).2).isSome = true := by
  cases hread : Numeral.ofText? word with
  | some numeral =>
    rw [Single.ofText?, hread]
    exact iff_of_true rfl (.inl ⟨numeral, ofText?_eq_some_iff.mp hread⟩)
  | none =>
    have hnone : ¬IsFloatNumeral word := by
      rintro ⟨numeral, hword⟩
      rw [ofText?_eq_some_iff.mpr hword] at hread
      exact absurd hread (by simp)
    simp [Single.ofText?, hread, hnone]

end Longest

/-- The length that is computed for a text is that of the longest numeral at its front, in bytes, and zero if there is
none; the bytes up to there are those of the numeral. The reader of floats knows numerals and some names. Of a raw
value it is given the longest numeral without the blanks in front, and accepts it. What stands behind makes no
difference unless a longer numeral comes from it. -/
theorem float_is_read_from_longest_numeral :
    (∀ s : String, ∃ word rest : String, s = word ++ rest ∧ IsLongestNumeral s.toList word.toList ∧
      numeralLength (Utf8.encode s) = (Utf8.encode word).length ∧
      (Utf8.encode s).take (numeralLength (Utf8.encode s)) = Utf8.encode word) ∧
    (∀ word, (Single.ofText? word).isSome = true ↔
      IsFloatNumeral word ∨ (namedMagnitude? (takeSign word).2).isSome = true) ∧
    (∀ raw, ∃ word, IsLongestNumeral (trimBlanks raw) word ∧
      Utf8.takeBytes? (numeralLength (Utf8.encode (String.ofList (trimBlanks raw)))) (trimBlanks raw) = some word ∧
      (word = [] → floatValue raw = Single.ofMagnitude false 0) ∧
      (word ≠ [] → Single.ofText? word = some (floatValue raw)) ∧
      ∀ numeral, SpellsFloat numeral word → floatValue raw = numeral.toSingle) ∧
    ∀ raw extra, (∀ word, word <+: trimBlanks (raw ++ extra) → IsFloatNumeral word → word <+: trimBlanks raw) →
      floatValue (raw ++ extra) = floatValue raw := by
  refine ⟨fun s => ?_, fun word => isSome_ofText?_iff, fun raw => ?_, fun raw extra hextra => ?_⟩
  · obtain ⟨word, hword, hlength⟩ := exists_longest s.toList
    obtain ⟨rest, hrest⟩ := hword.front
    have hascii : ∀ c ∈ word, c.toNat ≤ 127 := fun c hc => (hword.isNumeralChar c hc).toNat_le
    have hencode : Utf8.encode s = bytesOf word ++ bytesOf rest := by
      rw [← bytesOf_append, hrest]
      rfl
    have hlength : numeralLength (Utf8.encode s) = (bytesOf word).length := by
      rw [length_bytesOf hascii]
      exact hlength
    refine ⟨String.ofList word, String.ofList rest, ?_, ?_, ?_, ?_⟩
    · rw [← String.ofList_append, hrest, String.ofList_toList]
    · rwa [String.toList_ofList]
    · rwa [encode_ofList]
    · rw [hlength, encode_ofList, hencode, List.take_left]
  · obtain ⟨word, hword, hlength⟩ := exists_longest (trimBlanks raw)
    obtain ⟨rest, hrest⟩ := hword.front
    have hascii : ∀ c ∈ word, c.toNat ≤ 127 := fun c hc => (hword.isNumeralChar c hc).toNat_le
    obtain ⟨hzero, hvalue⟩ := hword.singlePrefixValue
    refine ⟨word, hword, ?_, hzero, fun hne => ?_, hvalue⟩
    · rw [encode_ofList, hlength, ← hrest, takeBytes?_append hascii]
    · obtain ⟨numeral, hnumeral⟩ := hword.numeral.resolve_left hne
      rw [floatValue, hvalue numeral hnumeral]
      exact hnumeral.ofText?
  · obtain ⟨word, hword, -⟩ := exists_longest (trimBlanks raw)
    have hbehind := hword.append hextra
    unfold floatValue
    rcases hword.numeral with hnil | ⟨numeral, hnumeral⟩
    · rw [hword.singlePrefixValue.1 hnil, hbehind.singlePrefixValue.1 hnil]
    · rw [hword.singlePrefixValue.2 numeral hnumeral, hbehind.singlePrefixValue.2 numeral hnumeral]

/-- The mark and the sign of an exponent without digits are left over, and letters behind them give it none. -/
theorem float_is_read_from_longest_numeral_without_exponent :
    let raw := " -2.5e+".toList
    let extra := "kg ".toList
    let numeral : Numeral := ⟨true, 25, -1⟩
    (∀ word, word <+: trimBlanks (raw ++ extra) → IsFloatNumeral word → word <+: trimBlanks raw) ∧
      floatValue (raw ++ extra) = floatValue raw ∧ SpellsFloat numeral "-2.5".toList ∧
      Single.ofText? "-2.5".toList = some (floatValue raw) ∧ floatValue raw = numeral.toSingle := by
  intro raw extra numeral
  obtain ⟨-, -, hread, hbehind⟩ := float_is_read_from_longest_numeral
  have hextra : ∀ word, word <+: trimBlanks (raw ++ extra) → IsFloatNumeral word → word <+: trimBlanks raw := by
    rintro word hfront ⟨found, hfound⟩
    have hle : word.length ≤ numeralLength (bytesOf (trimBlanks (raw ++ extra))) := by
      obtain ⟨rest, hrest⟩ := hfront
      rw [← hrest]
      exact hfound.length_le rest
    have hlength : numeralLength (bytesOf (trimBlanks (raw ++ extra))) = 4 := by decide +kernel
    have hsame : trimBlanks raw <+: trimBlanks (raw ++ extra) := by decide +kernel
    have hshort : 4 ≤ (trimBlanks raw).length := by decide +kernel
    exact List.prefix_of_prefix_length_le hfront hsame (by omega)
  have hwhole : IsDigits ['2'] := ⟨List.cons_ne_nil _ _, List.forall_mem_singleton.mpr (by decide)⟩
  have hbody : SpellsDecimal ['2'] ['5'] "2.5".toList := .pointed hwhole (List.forall_mem_singleton.mpr (by decide))
  have hword : SpellsFloat numeral "-2.5".toList := .parts .minus hbody .missing
  obtain ⟨word, -, htake, -, haccepted, hvalue⟩ := hread raw
  have hcut : Utf8.takeBytes? (numeralLength (Utf8.encode (String.ofList (trimBlanks raw)))) (trimBlanks raw) =
      some "-2.5".toList := by decide +kernel
  obtain rfl := Option.some.inj (htake.symm.trans hcut)
  exact ⟨hextra, hbehind raw extra hextra, hword, haccepted (by decide), hvalue numeral hword⟩

end TextSearch.Proofs
