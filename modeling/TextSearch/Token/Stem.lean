/-!
# English stems

The stem of an English word is what is left when its endings are taken off, in five steps, by the
rules of the Porter2 algorithm. An ending is taken off only if enough of the word stands before it:
the regions `R1` and `R2` begin behind the first and the second group of vowels and the consonant
that follows it.
-/

namespace TextSearch.Stem

/-- Whether a letter is a vowel. A `y` is one; a `Y` marks a consonant. -/
def isVowel (c : Char) : Bool := ['a', 'e', 'i', 'o', 'u', 'y'].contains c

/-- A word in the making: its letters from the last to the first, and where the regions begin. -/
structure Word where
  reversed : List Char
  region₁ : Nat
  region₂ : Nat

namespace Word

/-- How many letters the word has. -/
def length (w : Word) : Nat := w.reversed.length

/-- The first of some endings that the word has, with the letters before it. The letters of an
ending stand from the last to the first, as those of the word do. -/
def ending? {α : Type} (w : Word) (endings : List (List Char × α)) : Option (List Char × α) :=
  endings.findSome? fun entry => (entry.1.isPrefixOf? w.reversed).map fun stem => (stem, entry.2)

/-- The word with a stem and a new ending. -/
def become (w : Word) (stem : List Char) (ending : String) : Word :=
  { w with reversed := ending.toList.reverse ++ stem }

end Word

/-- Endings, each with its letters from the last to the first. -/
def endingsOf {α : Type} (endings : List (String × α)) : List (List Char × α) :=
  endings.map fun entry => (entry.1.toList.reverse, entry.2)

/-- Where a vowel and then a consonant have been passed. -/
def afterSyllable : List Char → Option (List Char)
  | cs =>
    match cs.dropWhile fun c => !isVowel c with
    | [] => none
    | rest =>
      match rest.dropWhile isVowel with
      | [] => none
      | _ :: rest => some rest

/-- Beginnings behind which the first region starts. -/
def regionStems : List (List Char) := ["gener", "commun", "arsen"].map String.toList

/-- What stands in the first region. -/
def firstRegion (cs : List Char) : Option (List Char) :=
  match regionStems.findSome? fun stem => stem.isPrefixOf? cs with
  | some rest => some rest
  | none => afterSyllable cs

/-- Marks each `y` that stands first or after a vowel as a consonant. -/
def markConsonants (previous : Option Char) : List Char → List Char
  | [] => []
  | c :: rest =>
    let marked := if c == 'y' && previous.all isVowel then 'Y' else c
    marked :: markConsonants (some marked) rest

/-- The word with its regions; a region that is not reached is empty. -/
def Word.ofChars (cs : List Char) : Word :=
  let size := cs.length
  let first := firstRegion cs
  let second := first.bind afterSyllable
  { reversed := cs.reverse
    region₁ := size - (first.getD []).length
    region₂ := size - (second.getD []).length }

/-- Whether letters, from the last to the first, end in a short syllable. -/
def endsShort : List Char → Bool
  | [c, v] => !isVowel c && isVowel v
  | c :: v :: b :: _ =>
    !isVowel c && !(['w', 'x', 'Y'].contains c) && isVowel v && !isVowel b
  | _ => false

/-- Possessive endings, longer ones first. -/
def possessiveEndings : List (List Char × Unit) := endingsOf [("'s'", ()), ("'s", ()), ("'", ())]

/-- Takes off an apostrophe with or without an `s`. -/
def dropPossessive (w : Word) : Word :=
  match w.ending? possessiveEndings with
  | some (stem, _) => w.become stem ""
  | none => w

/-- What becomes of a plural ending. -/
inductive Plural where
  | sses | ies | kept | s

/-- Plural endings, longer ones first. -/
def pluralEndings : List (List Char × Plural) :=
  endingsOf [("sses", .sses), ("ied", .ies), ("ies", .ies), ("us", .kept), ("ss", .kept), ("s", .s)]

/-- Step 1a: plurals. -/
def dropPlural (w : Word) : Word :=
  match w.ending? pluralEndings with
  | some (stem, .sses) => w.become stem "ss"
  | some (stem, .ies) => w.become stem (if 2 ≤ stem.length then "i" else "ie")
  | some (stem, .s) => if (stem.drop 1).any isVowel then w.become stem "" else w
  | _ => w

/-- Letters that are written once where a verb ending is taken off. -/
def isUndoubled (c : Char) : Bool := ['b', 'd', 'f', 'g', 'm', 'n', 'p', 'r', 't'].contains c

/-- Mends a stem that has lost its verb ending. -/
def mendVerb (w : Word) : Word :=
  match w.reversed with
  | 't' :: 'a' :: _ | 'l' :: 'b' :: _ | 'z' :: 'i' :: _ => w.become w.reversed "e"
  | a :: b :: rest =>
    if a == b && isUndoubled a then w.become (b :: rest) ""
    else if w.length = w.region₁ && endsShort w.reversed then w.become w.reversed "e"
    else w
  | _ => w

/-- Verb endings, longer ones first, and whether they give way to `ee`. -/
def verbEndings : List (List Char × Bool) :=
  endingsOf [("eedly", true), ("ingly", false), ("edly", false), ("eed", true), ("ing", false),
    ("ed", false)]

/-- Step 1b: verb endings. -/
def dropVerbEnding (w : Word) : Word :=
  match w.ending? verbEndings with
  | some (stem, true) => if w.region₁ ≤ stem.length then w.become stem "ee" else w
  | some (stem, false) => if stem.any isVowel then mendVerb (w.become stem "") else w
  | none => w

/-- Step 1c: a last `y` after a consonant that is not the first letter. -/
def turnLastY (w : Word) : Word :=
  match w.reversed with
  | y :: c :: b :: rest =>
    if (y == 'y' || y == 'Y') && !isVowel c then w.become (c :: b :: rest) "i" else w
  | _ => w

/-- Letters after which the ending `li` is taken off. -/
def isBeforeLi (c : Char) : Bool := ['c', 'd', 'e', 'g', 'h', 'k', 'm', 'n', 'r', 't'].contains c

/-- What an ending gives way to. -/
inductive Change where
  | to (ending : String)
  /-- Only behind one of the letters. -/
  | after (allowed : Char → Bool) (ending : String)
  /-- Only in the second region. -/
  | deep (ending : String)

/-- Endings of step 2, longer ones first. -/
def derivedEndings : List (List Char × Change) :=
  endingsOf [("ational", .to "ate"), ("fulness", .to "ful"), ("iveness", .to "ive"),
    ("ization", .to "ize"), ("ousness", .to "ous"), ("biliti", .to "ble"), ("lessli", .to "less"),
    ("tional", .to "tion"), ("alism", .to "al"), ("aliti", .to "al"), ("ation", .to "ate"),
    ("entli", .to "ent"), ("fulli", .to "ful"), ("iviti", .to "ive"), ("ousli", .to "ous"),
    ("abli", .to "able"), ("alli", .to "al"), ("anci", .to "ance"), ("ator", .to "ate"),
    ("enci", .to "ence"), ("izer", .to "ize"), ("bli", .to "ble"),
    ("ogi", .after (· == 'l') "og"), ("li", .after isBeforeLi "")]

/-- Endings of step 3, longer ones first. -/
def adjectiveEndings : List (List Char × Change) :=
  endingsOf [("ational", .to "ate"), ("tional", .to "tion"), ("alize", .to "al"),
    ("ative", .deep ""), ("icate", .to "ic"), ("iciti", .to "ic"), ("ical", .to "ic"),
    ("ness", .to ""), ("ful", .to "")]

/-- Endings of step 4, longer ones first. -/
def lastEndings : List (List Char × Change) :=
  endingsOf [("ement", .to ""), ("able", .to ""), ("ance", .to ""), ("ence", .to ""),
    ("ible", .to ""), ("ment", .to ""), ("ant", .to ""), ("ate", .to ""), ("ent", .to ""),
    ("ion", .after (fun c => c == 's' || c == 't') ""), ("ism", .to ""), ("iti", .to ""),
    ("ive", .to ""), ("ize", .to ""), ("ous", .to ""), ("al", .to ""), ("er", .to ""),
    ("ic", .to "")]

/-- Changes the longest of some endings, if it lies in a region. -/
def changeEnding (region : Nat) (endings : List (List Char × Change)) (w : Word) : Word :=
  match w.ending? endings with
  | none => w
  | some (stem, change) =>
    if stem.length < region then w
    else
      match change with
      | .to ending => w.become stem ending
      | .after allowed ending => if stem.head?.any allowed then w.become stem ending else w
      | .deep ending => if w.region₂ ≤ stem.length then w.become stem ending else w

/-- Step 5: a last `e`, or one of two last `l`. -/
def dropLastLetter (w : Word) : Word :=
  match w.reversed with
  | 'e' :: stem =>
    if w.region₂ ≤ stem.length || (w.region₁ ≤ stem.length && !endsShort stem) then
      w.become stem ""
    else w
  | 'l' :: 'l' :: rest => if w.region₂ ≤ rest.length + 1 then w.become ('l' :: rest) "" else w
  | _ => w

/-- Words whose stem is laid down. -/
def irregular : List (String × String) :=
  [("skis", "ski"), ("skies", "sky"), ("dying", "die"), ("lying", "lie"), ("tying", "tie"),
   ("idly", "idl"), ("gently", "gentl"), ("ugly", "ugli"), ("early", "earli"), ("only", "onli"),
   ("singly", "singl"), ("sky", "sky"), ("news", "news"), ("howe", "howe"), ("atlas", "atlas"),
   ("cosmos", "cosmos"), ("bias", "bias"), ("andes", "andes")]

/-- Words that are left alone once their plural ending is gone. -/
def settled : List String :=
  ["inning", "outing", "canning", "herring", "earring", "proceed", "exceed", "succeed"]

/-- Steps 1b to 5. -/
def dropEndings (w : Word) : Word :=
  let w := turnLastY (dropVerbEnding w)
  let w := changeEnding w.region₁ derivedEndings w
  let w := changeEnding w.region₁ adjectiveEndings w
  let w := changeEnding w.region₂ lastEndings w
  dropLastLetter w

/-- The letters without the apostrophe they may start with. -/
def dropQuote : List Char → List Char
  | '\'' :: rest => rest
  | cs => cs

/-- The stem of a word that is not irregular. Marks are taken back only if some were set. -/
def regular (cs : List Char) : List Char :=
  let bare := dropQuote cs
  let marked := markConsonants none bare
  let w := dropPlural (dropPossessive (Word.ofChars marked))
  let stem := (if settled.contains (String.ofList w.reversed.reverse) then w else dropEndings w)
  let letters := stem.reversed.reverse
  if marked = bare then letters else letters.map fun c => if c == 'Y' then 'y' else c

end Stem

/-- The stem of an English word in small letters. Words of one or two letters are their own. -/
def stem (word : String) : String :=
  match Stem.irregular.find? fun entry => entry.1 = word with
  | some entry => entry.2
  | none =>
    let cs := word.toList
    if cs.length < 3 then word else String.ofList (Stem.regular cs)

end TextSearch
