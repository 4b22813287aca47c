import Mathlib.Data.List.Basic
import Mathlib.Tactic.Lemma
import TextSearch.Token.Tokenizer

/-!
# Kept words

The rules of a tokenizer decide word by word which of them become tokens. A word is judged in the form that it has
before stemming, and its token has its place among all words of the text. So stricter rules only drop tokens.
-/

namespace TextSearch.Proofs

lemma pairwise_zipIdx {α : Type} (xs : List α) : xs.zipIdx.Pairwise fun a b => a.2 < b.2 := by
  have hplaces : (xs.zipIdx.map Prod.snd).Pairwise (· < ·) := by
    rw [List.zipIdx_map_snd]
    exact List.pairwise_lt_range'
  exact List.pairwise_map.mp hplaces

/-- What a word must be to be kept, in its form before stemming. -/
structure Passes (rules : TokenRules) (form : String) : Prop where
  long : rules.minLength ≤ form.length
  short : form.length ≤ rules.maxLength
  plain : rules.removeStopWords = true → isStopWord form = false

/-- Rules that change words as others do and keep no word that those drop. -/
structure Stricter (rules stricter : TokenRules) : Prop where
  lowercase : stricter.lowercase = rules.lowercase
  stem : stricter.stem = rules.stem
  stopWords : rules.removeStopWords = true → stricter.removeStopWords = true
  minLength : rules.minLength ≤ stricter.minLength
  maxLength : stricter.maxLength ≤ rules.maxLength

section Words

variable {rules stricter : TokenRules} {entry : String × Nat} {token : Token}

lemma keeps_iff_passes {form : String} : rules.keeps form = true ↔ Passes rules form := by
  have hplain : (!(rules.removeStopWords && isStopWord form)) = true ↔
      (rules.removeStopWords = true → isStopWord form = false) := by
    cases rules.removeStopWords <;> cases isStopWord form <;> decide
  rw [TokenRules.keeps, Bool.and_eq_true, Bool.and_eq_true, decide_eq_true_eq, decide_eq_true_eq, hplain]
  exact ⟨fun h => ⟨h.1.1, h.1.2, h.2⟩, fun h => ⟨⟨h.long, h.short⟩, h.plain⟩⟩

lemma token?_eq_some_iff : rules.token? entry = some token ↔
    Passes rules (rules.form entry.1) ∧ token = ⟨rules.finish (rules.form entry.1), UInt32.ofNat entry.2⟩ := by
  rw [← keeps_iff_passes, TokenRules.token?]
  by_cases hkeeps : rules.keeps (rules.form entry.1) = true
  · rw [if_pos hkeeps, Option.some.injEq]
    exact ⟨fun h => ⟨hkeeps, h.symm⟩, fun h => h.2.symm⟩
  · rw [if_neg hkeeps]
    exact iff_of_false (by simp) fun h => hkeeps h.1

lemma Stricter.form (h : Stricter rules stricter) (word : String) : stricter.form word = rules.form word := by
  rw [TokenRules.form, TokenRules.form, h.lowercase]

lemma Stricter.finish (h : Stricter rules stricter) (form : String) : stricter.finish form = rules.finish form := by
  rw [TokenRules.finish, TokenRules.finish, h.stem]

lemma Stricter.passes (h : Stricter rules stricter) {form : String} (hform : Passes stricter form) :
    Passes rules form where
  long := Nat.le_trans h.minLength hform.long
  short := Nat.le_trans hform.short h.maxLength
  plain := fun hstop => hform.plain (h.stopWords hstop)

/-- Stricter rules ask first whether they keep a word, and then do as the others. -/
lemma Stricter.token?_eq (h : Stricter rules stricter) :
    stricter.token? entry = if stricter.keeps (stricter.form entry.1) then rules.token? entry else none := by
  by_cases hkeeps : stricter.keeps (stricter.form entry.1) = true
  · have hpasses : Passes rules (rules.form entry.1) := h.form entry.1 ▸ h.passes (keeps_iff_passes.mp hkeeps)
    rw [if_pos hkeeps, token?_eq_some_iff.mpr ⟨hpasses, rfl⟩]
    exact token?_eq_some_iff.mpr ⟨keeps_iff_passes.mp hkeeps, by rw [h.finish, h.form]⟩
  · rw [if_neg hkeeps, TokenRules.token?]
    exact if_neg hkeeps

end Words

section Texts

variable {rules stricter : TokenRules} {text : String}

/-- Stricter rules drop some tokens and leave the others as they are. -/
lemma Stricter.tokens_sublist (h : Stricter rules stricter) (text : String) :
    (stricter.tokens text).Sublist (rules.tokens text) := by
  have htokens : stricter.tokens text = ((Unicode.words text).zipIdx.filter fun entry =>
      stricter.keeps (stricter.form entry.1)).filterMap rules.token? := by
    rw [List.filterMap_filter]
    exact List.filterMap_congr fun entry _ => h.token?_eq
  rw [htokens]
  exact List.filter_sublist.filterMap rules.token?

lemma toNat_place {word : String} {place : Nat} (h : (Unicode.words text).length < UInt32.size)
    (hentry : (word, place) ∈ (Unicode.words text).zipIdx) : (UInt32.ofNat place).toNat = place := by
  obtain ⟨hlt, -⟩ := List.getElem?_eq_some_iff.mp (List.mem_zipIdx_iff_getElem?.mp hentry)
  exact UInt32.toNat_ofNat_of_lt' (Nat.lt_trans hlt h)

lemma mem_tokens_iff (h : (Unicode.words text).length < UInt32.size) {token : Token} :
    token ∈ rules.tokens text ↔ ∃ word, (Unicode.words text)[token.position.toNat]? = some word ∧
      Passes rules (rules.form word) ∧ token.text = rules.finish (rules.form word) := by
  rw [TokenRules.tokens, List.mem_filterMap]
  constructor
  · rintro ⟨⟨word, place⟩, hentry, htoken⟩
    obtain ⟨hpasses, rfl⟩ := token?_eq_some_iff.mp htoken
    refine ⟨word, ?_, hpasses, rfl⟩
    rw [toNat_place h hentry]
    exact List.mem_zipIdx_iff_getElem?.mp hentry
  · rintro ⟨word, hword, hpasses, htext⟩
    refine ⟨(word, token.position.toNat), List.mem_zipIdx_iff_getElem?.mpr hword, ?_⟩
    exact token?_eq_some_iff.mpr ⟨hpasses, by rw [← htext, UInt32.ofNat_toNat]⟩

lemma pairwise_position_tokens (h : (Unicode.words text).length < UInt32.size) (rules : TokenRules) :
    (rules.tokens text).Pairwise fun a b => a.position < b.position := by
  rw [TokenRules.tokens, List.pairwise_filterMap]
  refine (pairwise_zipIdx _).imp_of_mem fun {a b} ha hb hlt => ?_
  intro token htoken token' htoken'
  obtain ⟨-, rfl⟩ := token?_eq_some_iff.mp htoken
  obtain ⟨-, rfl⟩ := token?_eq_some_iff.mp htoken'
  rw [UInt32.lt_iff_toNat_lt, toNat_place h ha, toNat_place h hb]
  exact hlt

end Texts

/-- The tokens of a text stand in ascending places. There is one for each word that passes the rules in its form before
stemming, at the place of the word among all words, and no other one. Stricter rules give the same tokens without those
that they drop. -/
theorem token_rules_only_filter {text : String} (h : (Unicode.words text).length < UInt32.size) (rules : TokenRules) :
    (rules.tokens text).Pairwise (fun a b => a.position < b.position) ∧
      (∀ token, token ∈ rules.tokens text ↔ ∃ word, (Unicode.words text)[token.position.toNat]? = some word ∧
        Passes rules (rules.form word) ∧ token.text = rules.finish (rules.form word)) ∧
      ∀ stricter, Stricter rules stricter → (stricter.tokens text).Sublist (rules.tokens text) :=
  ⟨pairwise_position_tokens h rules, fun _ => mem_tokens_iff h, fun _ hstricter => hstricter.tokens_sublist text⟩

/-- A long word stays with its place when short ones are dropped, and is stemmed after it was measured. -/
theorem token_rules_only_filter_cats :
    let text := "a of Cats"
    let rules : TokenRules := { removeStopWords := false, minLength := 1, maxLength := 9 }
    let stricter : TokenRules := { minLength := 4, maxLength := 4 }
    (Unicode.words text).length < UInt32.size ∧ Stricter rules stricter ∧
      (rules.tokens text).Pairwise (fun a b => a.position < b.position) ∧
      (⟨"cat", 2⟩ ∈ rules.tokens text ∧ ⟨"a", 0⟩ ∉ stricter.tokens text) ∧
      (stricter.tokens text).Sublist (rules.tokens text) := by
  intro text rules stricter
  have hwords : Unicode.words text = ["a", "of", "Cats"] := by decide +kernel
  have hlength : (Unicode.words text).length < UInt32.size := by
    rw [hwords]
    decide
  have hstricter : Stricter rules stricter := ⟨rfl, rfl, by decide, by decide, by decide⟩
  obtain ⟨hplaces, hmem, hfilter⟩ := token_rules_only_filter hlength rules
  obtain ⟨-, hmem', -⟩ := token_rules_only_filter hlength stricter
  refine ⟨hlength, hstricter, hplaces, ⟨(hmem _).mpr ⟨"Cats", ?_, ?_, ?_⟩, ?_⟩, hfilter stricter hstricter⟩
  · rw [hwords]
    rfl
  · exact ⟨by decide +kernel, by decide +kernel, by decide⟩
  · decide +kernel
  · intro ha
    obtain ⟨word, hword, hpasses, -⟩ := (hmem' _).mp ha
    rw [hwords] at hword
    obtain rfl : "a" = word := Option.some.inj hword
    have hlong := hpasses.long
    exact absurd hlong (by decide +kernel)

end TextSearch.Proofs
