import Mathlib.Data.List.DropRight
import Mathlib.Tactic.Lemma
import TextSearch.Json.Parser
import TextSearch.Proofs.DecimalDigits

/-!
# The grammar of JSON

How values are spelled, with blanks wherever they may stand, and that the reader takes from a text exactly the value
that it spells. Nesting counts: a value is nested as deep as brackets stand around its parts.
-/

namespace TextSearch.Proofs
open Json Decimal

/-! ### Numerals -/

def IsDigits (cs : List Char) : Prop := cs ≠ [] ∧ ∀ c ∈ cs, isDigit c = true

/-- The digits before the point: a zero alone or digits that do not start with a zero. -/
def SpellsWhole (whole : List Char) : Prop := whole = ['0'] ∨ (IsDigits whole ∧ whole.head? ≠ some '0')

inductive SpellsFraction : Option (List Char) → List Char → Prop
  | missing : SpellsFraction none []
  | digits {digits : List Char} (h : IsDigits digits) : SpellsFraction (some digits) ('.' :: digits)

/-- Whether a sign stands for a minus. An exponent may also have a plus or none. -/
inductive SpellsSign : Bool → List Char → Prop
  | missing : SpellsSign false []
  | plus : SpellsSign false ['+']
  | minus : SpellsSign true ['-']

inductive SpellsExponent : Option Int → List Char → Prop
  | missing : SpellsExponent none []
  | digits {mark : Char} {negative : Bool} {sign digits : List Char} (hmark : mark = 'e' ∨ mark = 'E')
      (hsign : SpellsSign negative sign) (h : IsDigits digits) :
      SpellsExponent (some (if negative then -(digitsValue 0 digits : Int) else digitsValue 0 digits))
        (mark :: (sign ++ digits))

inductive SpellsNumeral : NumeralParts → List Char → Prop
  | parts (negative : Bool) {whole fraction exponent : List Char} {fractionDigits : Option (List Char)}
      {exponentValue : Option Int} (hwhole : SpellsWhole whole) (hfraction : SpellsFraction fractionDigits fraction)
      (hexponent : SpellsExponent exponentValue exponent) :
      SpellsNumeral ⟨negative, whole, fractionDigits, exponentValue⟩
        ((if negative then ['-'] else []) ++ whole ++ fraction ++ exponent)

/-- The characters that may follow a value. -/
def enders : List Char := [' ', '\n', '\t', '\r', ',', ']', '\x7d']

/-- Whether what follows a value can be no part of it. -/
def Ends (rest : List Char) : Prop := ∀ c ∈ rest.head?, c ∈ enders

section Numerals

variable {digits rest : List Char}

lemma leadingDigits_append (h : ∀ c ∈ digits, isDigit c = true) (hrest : ∀ c ∈ rest.head?, isDigit c = false) :
    leadingDigits (digits ++ rest) = digits := by
  have hnone : rest.takeWhile isDigit = [] := by
    cases rest with
    | nil => rfl
    | cons c rest => exact List.takeWhile_cons_of_neg (by simp [hrest c rfl])
  rw [leadingDigits, List.takeWhile_append_of_pos h, hnone, List.append_nil]

lemma afterDigits_append (h : ∀ c ∈ digits, isDigit c = true) (hrest : ∀ c ∈ rest.head?, isDigit c = false) :
    afterDigits (digits ++ rest) = rest := by
  rw [afterDigits, List.dropWhile_append_of_pos h]
  cases rest with
  | nil => rfl
  | cons c rest => exact List.dropWhile_cons_of_neg (by simp [hrest c rfl])

lemma wholePart?_append {whole : List Char} (h : SpellsWhole whole) (hrest : ∀ c ∈ rest.head?, isDigit c = false) :
    wholePart? (whole ++ rest) = some (whole, rest) := by
  rcases h with rfl | ⟨⟨hne, hdigits⟩, hzero⟩
  · have hnone : leadingDigits ([] ++ rest) = [] := leadingDigits_append (by simp) hrest
    rw [List.nil_append] at hnone
    simp [wholePart?, hnone]
  · have hlead := leadingDigits_append hdigits hrest
    have hafter := afterDigits_append hdigits hrest
    unfold wholePart?
    split
    · rename_i _ tail hcs
      cases whole with
      | nil => exact absurd rfl hne
      | cons c whole => exact absurd (congrArg some (List.cons.inj hcs).1) hzero
    · rw [hlead, hafter, if_neg (by simpa using hne)]

lemma fractionPart?_append {fraction : Option (List Char)} {text : List Char} (h : SpellsFraction fraction text)
    (hrest : ∀ c ∈ rest.head?, isDigit c = false ∧ c ≠ '.') :
    fractionPart? (text ++ rest) = some (fraction, rest) := by
  cases h with
  | missing =>
    unfold fractionPart?
    split
    · rename_i tail hcs
      rw [List.nil_append] at hcs
      exact absurd rfl (hrest '.' (by rw [hcs]; rfl)).2
    · rfl
  | @digits digits h =>
    obtain ⟨hne, hdigits⟩ := h
    have hlead := leadingDigits_append hdigits fun c hc => (hrest c hc).1
    have hafter := afterDigits_append hdigits fun c hc => (hrest c hc).1
    rw [List.cons_append, fractionPart?, hlead, hafter, if_neg (by simpa using hne)]

lemma takeSign_of_spells {negative : Bool} {sign : List Char} (h : SpellsSign negative sign)
    (hrest : sign = [] → ∀ c ∈ rest.head?, c ≠ '+' ∧ c ≠ '-') : takeSign (sign ++ rest) = (negative, rest) := by
  cases h with
  | plus => rfl
  | minus => rfl
  | missing =>
    rw [List.nil_append]
    unfold takeSign
    split
    · exact absurd rfl (hrest rfl '+' rfl).1
    · exact absurd rfl (hrest rfl '-' rfl).2
    · rfl

lemma IsDigits.noSign (h : IsDigits digits) (rest : List Char) : ∀ c ∈ (digits ++ rest).head?, c ≠ '+' ∧ c ≠ '-' := by
  obtain ⟨d, digits, rfl⟩ := List.exists_cons_of_ne_nil h.1
  have hd := h.2 d List.mem_cons_self
  rintro _ ⟨⟩
  constructor <;> rintro rfl <;> exact absurd hd (by decide)

lemma takeSign_append {negative : Bool} {sign : List Char} (h : SpellsSign negative sign) (hdigits : IsDigits digits) :
    takeSign (sign ++ (digits ++ rest)) = (negative, digits ++ rest) :=
  takeSign_of_spells h fun _ => hdigits.noSign rest

lemma exponentPart?_append {exponent : Option Int} {text : List Char} (h : SpellsExponent exponent text)
    (hrest : ∀ c ∈ rest.head?, isDigit c = false ∧ c ≠ 'e' ∧ c ≠ 'E') :
    exponentPart? (text ++ rest) = some (exponent, rest) := by
  cases h with
  | missing =>
    cases rest with
    | nil => rfl
    | cons c rest =>
      obtain ⟨-, he, hE⟩ := hrest c rfl
      rw [List.nil_append, exponentPart?, if_neg (by simp [he, hE])]
  | @digits mark negative sign digits hmark hsign h =>
    have hlead := leadingDigits_append h.2 fun c hc => (hrest c hc).1
    have hafter := afterDigits_append h.2 fun c hc => (hrest c hc).1
    have hsign : takeSign (sign ++ (digits ++ rest)) = (negative, digits ++ rest) := takeSign_append hsign h
    have hmark : (mark == 'e' || mark == 'E') = true := by simpa using hmark
    rw [List.cons_append, List.append_assoc, exponentPart?, if_pos hmark, hsign]
    simp only [hlead, hafter, if_neg (by simpa using h.1 : ¬ digits.isEmpty = true)]

lemma Ends.notNumeral (h : Ends rest) :
    ∀ c ∈ rest.head?, isDigit c = false ∧ c ≠ '.' ∧ c ≠ 'e' ∧ c ≠ 'E' := by
  have hall : ∀ c ∈ enders, isDigit c = false ∧ c ≠ '.' ∧ c ≠ 'e' ∧ c ≠ 'E' := by
    simp [enders, isDigit]
  exact fun c hc => hall c (h c hc)

lemma head?_append {xs ys : List Char} {p : Char → Prop} (hxs : ∀ c ∈ xs.head?, p c)
    (hys : ∀ c ∈ ys.head?, p c) : ∀ c ∈ (xs ++ ys).head?, p c := by
  cases xs with
  | nil => exact hys
  | cons x xs => exact hxs

lemma SpellsFraction.head? {fraction : Option (List Char)} {text : List Char} (h : SpellsFraction fraction text) :
    ∀ c ∈ text.head?, isDigit c = false := by
  cases h with
  | missing => simp
  | digits => simp only [List.head?_cons, Option.mem_some_iff, forall_eq']; decide

lemma SpellsExponent.head? {exponent : Option Int} {text : List Char} (h : SpellsExponent exponent text) :
    ∀ c ∈ text.head?, isDigit c = false ∧ c ≠ '.' := by
  cases h with
  | missing => simp
  | digits hmark =>
    simp only [List.head?_cons, Option.mem_some_iff, forall_eq']
    rcases hmark with rfl | rfl <;> decide

lemma SpellsWhole.head? {whole : List Char} (h : SpellsWhole whole) :
    ∃ c digits, whole = c :: digits ∧ isDigit c = true := by
  rcases h with rfl | ⟨⟨hne, hdigits⟩, -⟩
  · exact ⟨'0', [], rfl, by decide⟩
  · cases whole with
    | nil => exact absurd rfl hne
    | cons c digits => exact ⟨c, digits, rfl, hdigits c List.mem_cons_self⟩

lemma numeralParts?_append {parts : NumeralParts} {text : List Char} (h : SpellsNumeral parts text)
    (hrest : Ends rest) : numeralParts? (text ++ rest) = some (parts, rest) := by
  obtain ⟨negative, hwhole, hfraction, hexponent⟩ := h
  rename_i whole fraction exponent fractionDigits exponentValue
  have hend := hrest.notNumeral
  have hexponent? : exponentPart? (exponent ++ rest) = some (exponentValue, rest) :=
    exponentPart?_append hexponent fun c hc => ⟨(hend c hc).1, (hend c hc).2.2⟩
  have hfraction? : fractionPart? (fraction ++ (exponent ++ rest)) = some (fractionDigits, exponent ++ rest) :=
    fractionPart?_append hfraction
      (head?_append hexponent.head? fun c hc => ⟨(hend c hc).1, (hend c hc).2.1⟩)
  have hwhole? : wholePart? (whole ++ (fraction ++ (exponent ++ rest))) =
      some (whole, fraction ++ (exponent ++ rest)) :=
    wholePart?_append hwhole (head?_append hfraction.head?
      (head?_append (fun c hc => (hexponent.head? c hc).1) fun c hc => (hend c hc).1))
  obtain ⟨c, digits, hcons, hc⟩ := hwhole.head?
  have hminus : c ≠ '-' := by
    rintro rfl
    exact absurd hc (by decide)
  cases negative with
  | true => simp [numeralParts?, hwhole?, hfraction?, hexponent?]
  | false =>
    rw [hcons] at hwhole? ⊢
    simp only [List.cons_append] at hwhole?
    simp [numeralParts?, hminus, hwhole?, hfraction?, hexponent?]

end Numerals

/-! ### Strings -/

/-- The letters behind a backslash and what they stand for. -/
def shortEscapes : List (Char × Char) :=
  [('"', '"'), ('\\', '\\'), ('/', '/'), ('b', '\x08'), ('f', '\x0c'), ('n', '\n'), ('r', '\r'), ('t', '\t')]

/-- Whether four digits to base sixteen denote a number. -/
def HexDigits (digits : List Char) (n : Nat) : Prop :=
  digits.length = 4 ∧ (∀ c ∈ digits, Text.isDigitOf 16 c = true) ∧ Text.numberOf 16 digits = n

/-- How a character of a string is spelled. One beyond the first `0x10000` may stand as two halves. -/
inductive SpellsChar : Char → List Char → Prop
  | plain {c : Char} (hquote : c ≠ '"') (hescape : c ≠ '\\') (hcontrol : 0x20 ≤ c.toNat) : SpellsChar c [c]
  | short {letter c : Char} (h : (letter, c) ∈ shortEscapes) : SpellsChar c ['\\', letter]
  | unicode {c : Char} {digits : List Char} (h : HexDigits digits c.toNat) : SpellsChar c ('\\' :: 'u' :: digits)
  | halves {c : Char} {high low : Nat} {digits more : List Char} (hhigh : HexDigits digits (0xD800 + high))
      (hlow : HexDigits more (0xDC00 + low)) (hhigh' : high < 0x400) (hlow' : low < 0x400)
      (hc : c.toNat = 0x10000 + high * 0x400 + low) :
      SpellsChar c ('\\' :: 'u' :: (digits ++ '\\' :: 'u' :: more))

inductive SpellsChars : List Char → List Char → Prop
  | nil : SpellsChars [] []
  | cons {c : Char} {cs text more : List Char} (hc : SpellsChar c text) (hcs : SpellsChars cs more) :
      SpellsChars (c :: cs) (text ++ more)

def SpellsString (s : String) (text : List Char) : Prop :=
  ∃ body, SpellsChars s.toList body ∧ text = '"' :: (body ++ ['"'])

lemma hexNumber?_append {digits rest : List Char} {n : Nat} (h : HexDigits digits n) :
    Text.hexNumber? 4 (digits ++ rest) = some (n, rest) := by
  obtain ⟨hlength, hdigits, hvalue⟩ := h
  have hall : digits.all (Text.isDigitOf 16) = true := List.all_eq_true.mpr hdigits
  simp [Text.hexNumber?, List.take_left' hlength, List.drop_left' hlength, hlength, hall, hvalue]

lemma unicodeEscape?_append {c : Char} {digits rest : List Char} (h : HexDigits digits c.toNat) :
    unicodeEscape? .kept (digits ++ rest) = some (c, rest) := by
  have hvalid : c.toNat < 0xD800 ∨ 0xDFFF < c.toNat := by
    rcases c.valid with hlow | ⟨hhigh, -⟩
    · exact .inl hlow
    · exact .inr hhigh
  simp [unicodeEscape?, hexNumber?_append h, hvalid]

lemma unicodeEscape?_halves {c : Char} {high low : Nat} {digits more rest : List Char}
    (hhigh : HexDigits digits (0xD800 + high)) (hlow : HexDigits more (0xDC00 + low)) (hhigh' : high < 0x400)
    (hlow' : low < 0x400) (hc : c.toNat = 0x10000 + high * 0x400 + low) :
    unicodeEscape? .kept (digits ++ '\\' :: 'u' :: (more ++ rest)) = some (c, rest) := by
  have hchar : Char.ofNat (0x10000 + high * 0x400 + low) = c := by
    rw [← hc, Char.ofNat_toNat]
  have hfirst : (0xD800 + high < 0xD800) = False ∧ (0xDFFF < 0xD800 + high) = False ∧
      (0xDBFF < 0xD800 + high) = False := by
    simp only [eq_iff_iff, iff_false]
    omega
  have hsecond : (0xDC00 + low < 0xDC00) = False ∧ (0xDFFF < 0xDC00 + low) = False := by
    simp only [eq_iff_iff, iff_false]
    omega
  simp [unicodeEscape?, hexNumber?_append hhigh, hexNumber?_append hlow, hfirst, hsecond, hchar]

lemma escape?_short {letter c : Char} {rest : List Char} (h : (letter, c) ∈ shortEscapes) :
    escape? .kept (letter :: rest) = some (c, rest) := by
  simp only [shortEscapes, List.mem_cons, Prod.mk.injEq, List.not_mem_nil, or_false] at h
  rcases h with ⟨rfl, rfl⟩ | ⟨rfl, rfl⟩ | ⟨rfl, rfl⟩ | ⟨rfl, rfl⟩ | ⟨rfl, rfl⟩ | ⟨rfl, rfl⟩ | ⟨rfl, rfl⟩ |
    ⟨rfl, rfl⟩ <;> rfl

lemma SpellsChar.ne_nil {c : Char} {text : List Char} (h : SpellsChar c text) : text ≠ [] := by
  cases h <;> exact List.cons_ne_nil _ _

lemma stringRest?_append {cs text rest : List Char} (h : SpellsChars cs text) {fuel : Nat}
    (hfuel : text.length < fuel) :
    stringRest? .kept fuel (text ++ '"' :: rest) = some (cs, rest) := by
  induction h generalizing fuel with
  | nil =>
    cases fuel with
    | zero => exact absurd hfuel (Nat.not_lt_zero _)
    | succ fuel => rfl
  | @cons c cs text more hc hcs ih =>
    have hpos : 0 < text.length := List.length_pos_iff.mpr hc.ne_nil
    rw [List.length_append] at hfuel
    cases fuel with
    | zero => exact absurd hfuel (Nat.not_lt_zero _)
    | succ fuel =>
      have ih : stringRest? .kept fuel (more ++ '"' :: rest) = some (cs, rest) := ih (by omega)
      cases hc with
      | plain hquote hescape hcontrol =>
        have hcontrol : ¬ c.toNat < 0x20 := Nat.not_lt.mpr hcontrol
        simp [stringRest?, hquote, hescape, hcontrol, ih]
      | short h =>
        simp [stringRest?, escape?_short h, ih]
      | unicode h =>
        simp [stringRest?, escape?, unicodeEscape?_append h, ih]
      | halves hhigh hlow hhigh' hlow' hc =>
        simp [stringRest?, escape?, unicodeEscape?_halves hhigh hlow hhigh' hlow' hc, ih]

lemma string?_append {s : String} {text rest : List Char} (h : SpellsString s text) :
    string? .kept (text ++ rest) = some (s, rest) := by
  obtain ⟨body, hbody, rfl⟩ := h
  have hfuel : body.length < (body ++ '"' :: rest).length + 1 := by
    rw [List.length_append]
    omega
  have hrest : stringRest? .kept _ (body ++ '"' :: rest) = some (s.toList, rest) :=
    stringRest?_append hbody hfuel
  rw [List.cons_append, List.append_assoc, List.singleton_append, string?, hrest, Option.map_some,
    String.ofList_toList]

/-! ### Quoted texts -/

lemma hexValue?_hexDigit {d : Nat} (h : d < 16) : Text.hexValue? (hexDigit d) = some d := by
  have hall : ∀ d < 16, Text.hexValue? (hexDigit d) = some d := by decide
  exact hall d h

lemma hexDigits_byte {n : Nat} (h : n < 0x100) : HexDigits ['0', '0', hexDigit (n / 16), hexDigit (n % 16)] n := by
  have hzero : Text.hexValue? '0' = some 0 := by decide
  have hhigh := hexValue?_hexDigit (show n / 16 < 16 by omega)
  have hlow := hexValue?_hexDigit (show n % 16 < 16 by omega)
  refine ⟨rfl, ?_, ?_⟩
  · have hhigh' : n / 16 < 16 := by omega
    have hlow' : n % 16 < 16 := by omega
    simp [Text.isDigitOf, hzero, hhigh, hlow, hhigh', hlow']
  · simp only [Text.numberOf, List.foldl_cons, List.foldl_nil, hzero, hhigh, hlow, Option.getD_some]
    omega

lemma spellsChar_escapeChar (c : Char) : SpellsChar c (escapeChar c) := by
  unfold escapeChar
  simp only [beq_iff_eq]
  split_ifs with hquote hescape hback hform hfeed hreturn htab hcontrol
  · exact .short (by simp [shortEscapes, hquote])
  · exact .short (by simp [shortEscapes, hescape])
  · exact .short (by simp [shortEscapes, hback])
  · exact .short (by simp [shortEscapes, hform])
  · exact .short (by simp [shortEscapes, hfeed])
  · exact .short (by simp [shortEscapes, hreturn])
  · exact .short (by simp [shortEscapes, htab])
  · exact .unicode (hexDigits_byte (hcontrol.trans (by decide)))
  · exact .plain hquote hescape (Nat.le_of_not_lt hcontrol)

lemma spellsChars_flatMap (cs : List Char) : SpellsChars cs (cs.flatMap escapeChar) := by
  induction cs with
  | nil => exact .nil
  | cons c cs ih =>
    rw [List.flatMap_cons]
    exact .cons (spellsChar_escapeChar c) ih

lemma spellsString_quoted (s : String) : SpellsString s (quoted s).toList := by
  refine ⟨s.toList.flatMap escapeChar, spellsChars_flatMap s.toList, ?_⟩
  simp [quoted]

/-! ### Values -/

def Spaces (cs : List Char) : Prop := ∀ c ∈ cs, isSpace c = true

/-- A name between blanks. -/
def SpellsName (name : String) (text : List Char) : Prop :=
  ∃ before quoted after, Spaces before ∧ SpellsString name quoted ∧ Spaces after ∧
    text = before ++ (quoted ++ after)

lemma spellsName_quoted (name : String) : SpellsName name (quoted name).toList :=
  ⟨[], (quoted name).toList, [], List.forall_mem_nil _, spellsString_quoted name, List.forall_mem_nil _, by simp⟩

/-- What a text spells: a value, the items of an array up to its bracket or the members of an object up to its
bracket. -/
inductive Phrase where
  | value (v : JsonValue)
  | items (values : List JsonValue)
  | members (members : List (String × JsonValue))

/-- How phrases are spelled that are nested no deeper than a number. An array has at least one item where items are
spelled. -/
inductive Spells : Nat → Phrase → List Char → Prop
  | nullWord {depth : Nat} : Spells depth (.value .null) "null".toList
  | trueWord {depth : Nat} : Spells depth (.value (.bool true)) "true".toList
  | falseWord {depth : Nat} : Spells depth (.value (.bool false)) "false".toList
  | number {depth : Nat} {parts : NumeralParts} {n : JsonNumber} {text : List Char} (h : SpellsNumeral parts text)
      (hn : parts.number? = some n) : Spells depth (.value (.number n)) text
  | string {depth : Nat} {s : String} {text : List Char} (h : SpellsString s text) :
      Spells depth (.value (.string s)) text
  | noItems {depth : Nat} {blanks : List Char} (h : Spaces blanks) :
      Spells (depth + 1) (.value (.array [])) ('[' :: (blanks ++ [']']))
  | array {depth : Nat} {values : List JsonValue} {text : List Char} (h : Spells depth (.items values) text) :
      Spells (depth + 1) (.value (.array values)) ('[' :: text)
  | noMembers {depth : Nat} {blanks : List Char} (h : Spaces blanks) :
      Spells (depth + 1) (.value (.object [])) ('\x7b' :: (blanks ++ ['\x7d']))
  | object {depth : Nat} {members : List (String × JsonValue)} {text : List Char}
      (h : Spells depth (.members members) text) :
      Spells (depth + 1) (.value (.object (sortMembers members))) ('\x7b' :: text)
  | spaced {depth : Nat} {v : JsonValue} {before text after : List Char} (hbefore : Spaces before)
      (h : Spells depth (.value v) text) (hafter : Spaces after) :
      Spells depth (.value v) (before ++ (text ++ after))
  | lastItem {depth : Nat} {v : JsonValue} {text : List Char} (h : Spells depth (.value v) text) :
      Spells depth (.items [v]) (text ++ [']'])
  | nextItem {depth : Nat} {v : JsonValue} {values : List JsonValue} {text more : List Char}
      (h : Spells depth (.value v) text) (hmore : Spells depth (.items values) more) :
      Spells depth (.items (v :: values)) (text ++ ',' :: more)
  | lastMember {depth : Nat} {name : String} {v : JsonValue} {front text : List Char} (hname : SpellsName name front)
      (h : Spells depth (.value v) text) : Spells depth (.members [(name, v)]) (front ++ ':' :: (text ++ ['\x7d']))
  | nextMember {depth : Nat} {name : String} {v : JsonValue} {members : List (String × JsonValue)}
      {front text more : List Char} (hname : SpellsName name front) (h : Spells depth (.value v) text)
      (hmore : Spells depth (.members members) more) :
      Spells depth (.members ((name, v) :: members)) (front ++ ':' :: (text ++ ',' :: more))

section Blanks

variable {blanks cs rest : List Char} {c : Char} {fuel depth : Nat} {care : Care}

lemma skipSpaces_append (h : Spaces blanks) (cs : List Char) : skipSpaces (blanks ++ cs) = skipSpaces cs :=
  List.dropWhile_append_of_pos h

lemma skipSpaces_cons (h : isSpace c = false) (cs : List Char) : skipSpaces (c :: cs) = c :: cs :=
  List.dropWhile_cons_of_neg (by simp [h])

lemma skipSpaces_skipSpaces (cs : List Char) : skipSpaces (skipSpaces cs) = skipSpaces cs :=
  List.dropWhile_idempotent ..

lemma value?_skipSpaces (care : Care) (fuel depth : Nat) (cs : List Char) :
    value? care fuel depth (skipSpaces cs) = value? care fuel depth cs := by
  cases fuel with
  | zero => rfl
  | succ fuel => rw [value?, value?, skipSpaces_skipSpaces]

lemma items?_skipSpaces (care : Care) (fuel depth : Nat) (cs : List Char) :
    items? care fuel depth (skipSpaces cs) = items? care fuel depth cs := by
  cases fuel with
  | zero => rfl
  | succ fuel => rw [items?, items?, value?_skipSpaces]

lemma members?_skipSpaces (care : Care) (fuel depth : Nat) (cs : List Char) :
    members? care fuel depth (skipSpaces cs) = members? care fuel depth cs := by
  cases fuel with
  | zero => rfl
  | succ fuel => rw [members?, members?, skipSpaces_skipSpaces]

/-- No items start with the bracket that ends them. -/
lemma skipSpaces_ne_of_items? {values : List JsonValue} {r : List Char}
    (h : items? care fuel depth cs = some (values, r)) (tail : List Char) : skipSpaces cs ≠ ']' :: tail := by
  intro hcs
  rw [← items?_skipSpaces, hcs] at h
  cases fuel with
  | zero => cases h
  | succ fuel =>
    have hnone : value? care fuel depth (']' :: tail) = none := by
      cases fuel with
      | zero => rfl
      | succ fuel => rfl
    rw [items?, hnone] at h
    cases h

lemma skipSpaces_ne_of_members? {members : List (String × JsonValue)} {r : List Char}
    (h : members? care fuel depth cs = some (members, r)) (tail : List Char) : skipSpaces cs ≠ '\x7d' :: tail := by
  intro hcs
  cases fuel with
  | zero => cases h
  | succ fuel =>
    rw [members?, hcs] at h
    cases h

end Blanks

lemma SpellsNumeral.head? {parts : NumeralParts} {text : List Char} (h : SpellsNumeral parts text) :
    ∃ c tail, text = c :: tail ∧ (c = '-' ∨ isDigit c = true) := by
  obtain ⟨negative, hwhole, -, -⟩ := h
  rename_i whole fraction exponent fractionDigits exponentValue
  obtain ⟨c, digits, rfl, hc⟩ := hwhole.head?
  cases negative with
  | true => exact ⟨'-', _, rfl, .inl rfl⟩
  | false => exact ⟨c, _, rfl, .inr hc⟩

/-- The characters that start something else than a number. -/
def otherStarts : List Char := [' ', '\n', '\t', '\r', 'n', 't', 'f', '"', '[', '\x7b']

lemma notMem_otherStarts {c : Char} (hc : c = '-' ∨ isDigit c = true) : c ∉ otherStarts := by
  have hall : ∀ d ∈ otherStarts, d ≠ '-' ∧ isDigit d = false := by
    simp [otherStarts, isDigit]
  intro hmem
  obtain ⟨hminus, hdigit⟩ := hall c hmem
  rcases hc with hc | hc
  · exact hminus hc
  · exact absurd (hc.symm.trans hdigit) (by decide)

lemma value?_numeral {parts : NumeralParts} {text rest : List Char} (h : SpellsNumeral parts text)
    (hrest : Ends rest) (fuel limit : Nat) :
    value? .kept (fuel + 1) limit (text ++ rest) = parts.number?.map fun n => (.number n, rest) := by
  have hnumber : number? .kept (text ++ rest) = parts.number?.map fun n => (n, rest) := by
    cases hn : parts.number? <;> simp [number?, numeralParts?_append h hrest, hn]
  obtain ⟨c, tail, rfl, hc⟩ := h.head?
  have hother := notMem_otherStarts hc
  simp only [otherStarts, List.mem_cons, List.not_mem_nil, or_false, not_or] at hother
  have hspace : isSpace c = false := by
    simp [isSpace, hother]
  rw [List.cons_append] at hnumber ⊢
  rw [value?, skipSpaces_cons hspace]
  simp [hother, hnumber, Function.comp_def]

/-- What the reader does with a text in front of others: it takes what the text spells. -/
def IsRead (depth : Nat) (text : List Char) : Phrase → Prop
  | .value v => ∀ ⦃fuel limit rest⦄, 2 * text.length ≤ fuel → depth < limit → Ends rest →
      ∃ more, value? .kept fuel limit (text ++ rest) = some (v, more) ∧ skipSpaces more = skipSpaces rest
  | .items values => ∀ ⦃fuel limit rest⦄, 2 * text.length < fuel → depth < limit →
      items? .kept fuel limit (text ++ rest) = some (values, rest)
  | .members members => ∀ ⦃fuel limit rest⦄, 2 * text.length < fuel → depth < limit →
      members? .kept fuel limit (text ++ rest) = some (members, rest)

section Reading

variable {depth : Nat} {text more front blanks : List Char} {name : String} {v : JsonValue}
  {values : List JsonValue} {members : List (String × JsonValue)}

lemma Ends.append (hblanks : Spaces blanks) (hrest : Ends more) : Ends (blanks ++ more) := by
  have hall : ∀ c, isSpace c = true → c ∈ enders := by
    intro c hc
    simp only [isSpace, Bool.or_eq_true, beq_iff_eq] at hc
    rcases hc with ((rfl | rfl) | rfl) | rfl <;> decide
  cases blanks with
  | nil => exact hrest
  | cons c blanks =>
    rintro _ ⟨⟩
    exact hall c (hblanks c List.mem_cons_self)

lemma isRead_word {word : List Char}
    (h : ∀ fuel limit rest, value? .kept (fuel + 1) limit (word ++ rest) = some (v, rest)) (hne : word ≠ []) :
    IsRead depth word (.value v) := by
  intro fuel limit rest hfuel _ _
  have hpos : 0 < word.length := List.length_pos_iff.mpr hne
  cases fuel with
  | zero => omega
  | succ fuel => exact ⟨rest, h fuel limit rest, rfl⟩

lemma isRead_noItems (h : Spaces blanks) : IsRead (depth + 1) ('[' :: (blanks ++ [']'])) (.value (.array [])) := by
  intro fuel limit rest hfuel hlimit _
  have hlimit : ¬ limit ≤ 1 := by omega
  have hblanks : skipSpaces (blanks ++ ']' :: rest) = ']' :: rest := by
    rw [skipSpaces_append h, skipSpaces_cons (by decide)]
  cases fuel with
  | zero => simp at hfuel
  | succ fuel =>
    refine ⟨rest, ?_, rfl⟩
    simp [value?, skipSpaces_cons (c := '[') (by decide), hlimit, hblanks]

lemma IsRead.array (h : IsRead depth text (.items values)) :
    IsRead (depth + 1) ('[' :: text) (.value (.array values)) := by
  intro fuel limit rest hfuel hlimit _
  have hlimit' : ¬ limit ≤ 1 := by omega
  rw [List.length_cons] at hfuel
  cases fuel with
  | zero => omega
  | succ fuel =>
    have hitems : items? .kept fuel (limit - 1) (text ++ rest) = some (values, rest) := h (by omega) (by omega)
    have hbracket := skipSpaces_ne_of_items? hitems
    rw [← items?_skipSpaces] at hitems
    refine ⟨rest, ?_, rfl⟩
    simp [value?, skipSpaces_cons (c := '[') (by decide), hlimit', hitems]

lemma isRead_noMembers (h : Spaces blanks) :
    IsRead (depth + 1) ('\x7b' :: (blanks ++ ['\x7d'])) (.value (.object [])) := by
  intro fuel limit rest hfuel hlimit _
  have hlimit : ¬ limit ≤ 1 := by omega
  have hblanks : skipSpaces (blanks ++ '\x7d' :: rest) = '\x7d' :: rest := by
    rw [skipSpaces_append h, skipSpaces_cons (by decide)]
  cases fuel with
  | zero => simp at hfuel
  | succ fuel =>
    refine ⟨rest, ?_, rfl⟩
    simp [value?, skipSpaces_cons (c := '\x7b') (by decide), hlimit, hblanks]

lemma IsRead.object (h : IsRead depth text (.members members)) :
    IsRead (depth + 1) ('\x7b' :: text) (.value (.object (sortMembers members))) := by
  intro fuel limit rest hfuel hlimit _
  have hlimit' : ¬ limit ≤ 1 := by omega
  rw [List.length_cons] at hfuel
  cases fuel with
  | zero => omega
  | succ fuel =>
    have hmembers : members? .kept fuel (limit - 1) (text ++ rest) = some (members, rest) :=
      h (by omega) (by omega)
    have hbracket := skipSpaces_ne_of_members? hmembers
    rw [← members?_skipSpaces] at hmembers
    refine ⟨rest, ?_, rfl⟩
    simp [value?, skipSpaces_cons (c := '\x7b') (by decide), hlimit', hmembers]

lemma IsRead.spaced {before after : List Char} (hbefore : Spaces before) (h : IsRead depth text (.value v))
    (hafter : Spaces after) : IsRead depth (before ++ (text ++ after)) (.value v) := by
  intro fuel limit rest hfuel hlimit hrest
  rw [List.length_append, List.length_append] at hfuel
  have hshort : 2 * text.length ≤ fuel := by omega
  obtain ⟨more, hvalue, hmore⟩ := h hshort hlimit (hrest.append hafter)
  refine ⟨more, ?_, hmore.trans (skipSpaces_append hafter rest)⟩
  rw [List.append_assoc, List.append_assoc, ← value?_skipSpaces, skipSpaces_append hbefore, value?_skipSpaces, hvalue]

/-- A value in front of a character that may follow it. -/
lemma IsRead.followed (h : IsRead depth text (.value v)) {c : Char} (hc : c ∈ enders) (hspace : isSpace c = false)
    {fuel limit : Nat} (hfuel : 2 * text.length ≤ fuel) (hlimit : depth < limit) (rest : List Char) :
    ∃ more, value? .kept fuel limit (text ++ c :: rest) = some (v, more) ∧ skipSpaces more = c :: rest := by
  have hends : Ends (c :: rest) := by
    rintro _ ⟨⟩
    exact hc
  obtain ⟨more, hvalue, hmore⟩ := h hfuel hlimit hends
  exact ⟨more, hvalue, hmore.trans (skipSpaces_cons hspace rest)⟩

lemma IsRead.lastItem (h : IsRead depth text (.value v)) : IsRead depth (text ++ [']']) (.items [v]) := by
  intro fuel limit rest hfuel hlimit
  rw [List.length_append] at hfuel
  cases fuel with
  | zero => omega
  | succ fuel =>
    obtain ⟨more, hvalue, hmore⟩ :=
      h.followed (c := ']') (by decide) (by decide) (by omega : 2 * text.length ≤ fuel) hlimit rest
    rw [List.append_assoc, List.singleton_append, items?]
    simp [hvalue, hmore]

lemma IsRead.nextItem (h : IsRead depth text (.value v)) (hrest : IsRead depth more (.items values)) :
    IsRead depth (text ++ ',' :: more) (.items (v :: values)) := by
  intro fuel limit rest hfuel hlimit
  rw [List.length_append, List.length_cons] at hfuel
  cases fuel with
  | zero => omega
  | succ fuel =>
    obtain ⟨behind, hvalue, hbehind⟩ :=
      h.followed (c := ',') (by decide) (by decide) (by omega : 2 * text.length ≤ fuel) hlimit (more ++ rest)
    have hitems : items? .kept fuel limit (more ++ rest) = some (values, rest) := hrest (by omega) hlimit
    rw [List.append_assoc, List.cons_append, items?]
    simp [hvalue, hbehind, hitems]

/-- The name of a member and the colon behind it. -/
lemma name?_append (h : SpellsName name front) (rest : List Char) :
    ∃ behind, string? .kept (skipSpaces (front ++ ':' :: rest)) = some (name, behind) ∧
      dropColon? behind = some rest := by
  obtain ⟨before, quoted, after, hbefore, hquoted, hafter, rfl⟩ := h
  have hfront : skipSpaces (quoted ++ (after ++ ':' :: rest)) = quoted ++ (after ++ ':' :: rest) := by
    obtain ⟨body, -, rfl⟩ := hquoted
    exact skipSpaces_cons (by decide) _
  have hcolon : skipSpaces (after ++ ':' :: rest) = ':' :: rest := by
    rw [skipSpaces_append hafter, skipSpaces_cons (by decide)]
  refine ⟨after ++ ':' :: rest, ?_, ?_⟩
  · rw [List.append_assoc, List.append_assoc, skipSpaces_append hbefore, hfront, string?_append hquoted]
  · simp [dropColon?, hcolon]

lemma IsRead.lastMember (hname : SpellsName name front) (h : IsRead depth text (.value v)) :
    IsRead depth (front ++ ':' :: (text ++ ['\x7d'])) (.members [(name, v)]) := by
  intro fuel limit rest hfuel hlimit
  simp only [List.length_append, List.length_cons] at hfuel
  cases fuel with
  | zero => omega
  | succ fuel =>
    obtain ⟨more, hvalue, hmore⟩ :=
      h.followed (c := '\x7d') (by decide) (by decide) (by omega : 2 * text.length ≤ fuel) hlimit rest
    obtain ⟨behind, hstring, hcolon⟩ := name?_append hname (text ++ '\x7d' :: rest)
    rw [List.append_assoc, List.cons_append, List.append_assoc, List.singleton_append, members?]
    simp [hstring, hcolon, hvalue, hmore]

lemma IsRead.nextMember (hname : SpellsName name front) (h : IsRead depth text (.value v))
    (hrest : IsRead depth more (.members members)) :
    IsRead depth (front ++ ':' :: (text ++ ',' :: more)) (.members ((name, v) :: members)) := by
  intro fuel limit rest hfuel hlimit
  simp only [List.length_append, List.length_cons] at hfuel
  cases fuel with
  | zero => omega
  | succ fuel =>
    obtain ⟨left, hvalue, hleft⟩ :=
      h.followed (c := ',') (by decide) (by decide) (by omega : 2 * text.length ≤ fuel) hlimit (more ++ rest)
    have hmembers : members? .kept fuel limit (more ++ rest) = some (members, rest) := hrest (by omega) hlimit
    obtain ⟨behind, hstring, hcolon⟩ := name?_append hname (text ++ ',' :: (more ++ rest))
    rw [List.append_assoc, List.cons_append, List.append_assoc, List.cons_append, members?]
    simp [hstring, hcolon, hvalue, hleft, hmembers]

end Reading

/-- The reader takes from a text what the text spells. -/
theorem Spells.isRead {depth : Nat} {phrase : Phrase} {text : List Char} (h : Spells depth phrase text) :
    IsRead depth text phrase := by
  -- by induction on the spelling; `IsRead` leaves open what follows, as each part is read in front of the next
  induction h with
  | nullWord => exact isRead_word (fun _ _ _ => rfl) (by decide)
  | trueWord => exact isRead_word (fun _ _ _ => rfl) (by decide)
  | falseWord => exact isRead_word (fun _ _ _ => rfl) (by decide)
  | number h hn =>
    intro fuel limit rest hfuel _ hrest
    obtain ⟨c, tail, rfl, -⟩ := h.head?
    cases fuel with
    | zero => simp at hfuel
    | succ fuel =>
      have hvalue := value?_numeral h hrest fuel limit
      rw [hn] at hvalue
      exact ⟨rest, hvalue, rfl⟩
  | string h =>
    obtain ⟨body, hbody, rfl⟩ := h
    refine isRead_word (fun fuel limit rest => ?_) (List.cons_ne_nil _ _)
    have hstring : string? .kept ('"' :: (body ++ ['"']) ++ rest) = some (_, rest) :=
      string?_append ⟨body, hbody, rfl⟩
    rw [List.cons_append] at hstring ⊢
    rw [value?, skipSpaces_cons (by decide)]
    simp only [hstring, Option.map_some]
  | noItems h => exact isRead_noItems h
  | array _ ih => exact ih.array
  | noMembers h => exact isRead_noMembers h
  | object _ ih => exact ih.object
  | spaced hbefore _ hafter ih => exact ih.spaced hbefore hafter
  | lastItem _ ih => exact ih.lastItem
  | nextItem _ _ ih ihmore => exact ih.nextItem ihmore
  | lastMember hname _ ih => exact ih.lastMember hname
  | nextMember hname _ _ ih ihmore => exact ih.nextMember hname ihmore

/-- A text is read as the value that it spells, nested up to the limit. -/
theorem parse?_of_spells {depth : Nat} {v : JsonValue} {text : List Char} (h : Spells depth (.value v) text)
    (hdepth : depth < nestingLimit) : parse? text = some v := by
  have hsteps : 2 * text.length ≤ steps text := by
    unfold steps
    omega
  have hends : Ends [] := by
    rintro _ ⟨⟩
  obtain ⟨more, hvalue, hmore⟩ := h.isRead hsteps hdepth hends
  rw [List.append_nil] at hvalue
  have hmore : skipSpaces more = [] := hmore
  simp [parse?, hvalue, hmore]

/-! ### Whole numbers -/

lemma spellsWhole_toDigits (n : Nat) : SpellsWhole (Nat.toDigits 10 n) := by
  rcases Nat.eq_zero_or_pos n with rfl | hpos
  · exact .inl rfl
  · obtain ⟨d, rest, hd, hlt, hdigits⟩ := toDigits_eq_cons hpos
    refine .inr ⟨⟨by simp [hdigits], fun c hc => isDigit_of_mem_toDigits hc⟩, ?_⟩
    intro hzero
    rw [hdigits, List.head?_cons, Option.some.injEq] at hzero
    have hvalue := digitsValue_digitChar 0 hlt
    rw [hzero] at hvalue
    have hzero : digitsValue 0 ['0'] = 0 := by decide
    omega

/-- A whole number without a sign, a fraction and an exponent. -/
lemma spellsNumeral_toDigits (n : Nat) :
    SpellsNumeral ⟨false, Nat.toDigits 10 n, none, none⟩ (Nat.toDigits 10 n) := by
  have h := SpellsNumeral.parts false (spellsWhole_toDigits n) .missing .missing
  simpa using h

lemma number?_toDigits {n : Nat} (h : n < UInt64.size) :
    NumeralParts.number? ⟨false, Nat.toDigits 10 n, none, none⟩ = some (.integer n) := by
  simp [NumeralParts.number?, digitsValue_toDigits, h]

lemma spells_integer {n : Nat} (h : n < UInt64.size) (depth : Nat) :
    Spells depth (.value (.number (.integer n))) (Nat.toDigits 10 n) :=
  .number (spellsNumeral_toDigits n) (number?_toDigits h)

end TextSearch.Proofs
