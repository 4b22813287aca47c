import Mathlib.Data.List.DropRight
import Mathlib.Tactic.Lemma
import TextSearch.Text.Pieces

/-!
# Pieces of texts

Texts that were joined with a separator are the pieces at which it cuts, and a text between blanks is what
trimming leaves.
-/

namespace TextSearch.Proofs
open Text Unicode

/-! ### Cutting -/

section Cutting

variable {sep : Char} {cs : List Char}

lemma pieces_eq_splitOn (sep : Char) (cs : List Char) : pieces sep cs = cs.splitOn sep := by
  induction cs with
  | nil => rfl
  | cons c rest ih =>
    have hcons : ∀ {ps : List (List Char)}, ps ≠ [] → consPiece c ps = ps.modifyHead (List.cons c) := by
      intro ps hps
      cases ps with
      | nil => exact absurd rfl hps
      | cons p ps => rfl
    rw [pieces, List.splitOn_cons_eq_if_modifyHead, hcons (pieces_ne_nil sep rest), ih]
    simp only [beq_iff_eq]

lemma pieces_append (a b : List Char) : pieces sep (a ++ sep :: b) = pieces sep a ++ pieces sep b := by
  simp only [pieces_eq_splitOn, List.splitOn_append_cons_self]

lemma pieces_of_notMem (h : sep ∉ cs) : pieces sep cs = [cs] := by
  rw [pieces_eq_splitOn, List.splitOn_eq_singleton h]

/-- What has no separator stands at the end of the last piece. -/
lemma exists_pieces_append (sep : Char) (cs : List Char) :
    ∃ front last, ∀ back, sep ∉ back → pieces sep (cs ++ back) = front ++ [last ++ back] := by
  induction cs with
  | nil => exact ⟨[], [], fun back hback => pieces_of_notMem hback⟩
  | cons c cs ih =>
    obtain ⟨front, last, hpieces⟩ := ih
    by_cases hc : c = sep
    · refine ⟨[] :: front, last, fun back hback => ?_⟩
      rw [List.cons_append, pieces, if_pos hc, hpieces back hback, List.cons_append]
    · cases front with
      | nil =>
        refine ⟨[], c :: last, fun back hback => ?_⟩
        rw [List.cons_append, pieces, if_neg hc, hpieces back hback]
        rfl
      | cons piece front =>
        refine ⟨(c :: piece) :: front, last, fun back hback => ?_⟩
        rw [List.cons_append, pieces, if_neg hc, hpieces back hback]
        rfl

lemma length_pieces (sep : Char) (cs : List Char) : (pieces sep cs).length = cs.count sep + 1 := by
  induction cs with
  | nil => rfl
  | cons c rest ih =>
    rw [pieces]
    by_cases hc : c = sep
    · rw [if_pos hc, List.length_cons, ih, hc, List.count_cons_self]
    · rw [if_neg hc, List.count_cons_of_ne hc, ← ih]
      cases hrest : pieces sep rest with
      | nil => exact absurd hrest (pieces_ne_nil sep rest)
      | cons p ps => rfl

/-- The characters of the pieces are those of the text but for the separators. -/
lemma forall_mem_pieces_iff {P : Char → Prop} :
    (∀ p ∈ pieces sep cs, ∀ c ∈ p, P c) ↔ ∀ c ∈ cs, c = sep ∨ P c := by
  induction cs with
  | nil => simp [pieces]
  | cons c rest ih =>
    rw [pieces, List.forall_mem_cons, ← ih]
    by_cases hc : c = sep
    · simp [hc]
    · rw [if_neg hc]
      cases hrest : pieces sep rest with
      | nil => exact absurd hrest (pieces_ne_nil sep rest)
      | cons p ps => simp [consPiece, hc, and_assoc]

/-- Pieces of which the empty one is passed over can be joined and cut again. -/
lemma filterMap_pieces_intercalate {β : Type} {read : List Char → Option β} (hempty : read [] = none)
    {slots : List (List Char)} (hslots : ∀ slot ∈ slots, sep ∉ slot) :
    (pieces sep ([sep].intercalate slots)).filterMap read = slots.filterMap read := by
  by_cases hnil : slots = []
  · subst hnil
    simp [List.intercalate, pieces, hempty]
  · rw [pieces_eq_splitOn, List.splitOn_intercalate sep hslots hnil]

lemma notMem_intercalate {c : Char} (hc : c ≠ sep) {slots : List (List Char)}
    (hslots : ∀ slot ∈ slots, c ∉ slot) : c ∉ [sep].intercalate slots := by
  induction slots with
  | nil => exact List.not_mem_nil
  | cons slot slots ih =>
    obtain ⟨hslot, hrest⟩ := List.forall_mem_cons.mp hslots
    by_cases hnil : slots = []
    · subst hnil
      simpa using hslot
    · rw [List.intercalate_cons_of_ne_nil hnil]
      simp only [List.mem_append, List.mem_singleton, not_or]
      exact ⟨⟨hslot, hc⟩, ih hrest⟩

end Cutting

/-! ### Trimming -/

def Blanks (cs : List Char) : Prop := ∀ c ∈ cs, isBlank c = true

instance (cs : List Char) : Decidable (Blanks cs) := List.decidableBAll ..

lemma Blanks.notMem {cs : List Char} (h : Blanks cs) {c : Char} (hc : isBlank c = false) : c ∉ cs := by
  intro hmem
  rw [h c hmem] at hc
  exact absurd hc (by decide)

lemma trimBlanks_eq_nil_iff {cs : List Char} : trimBlanks cs = [] ↔ Blanks cs := by
  have htrim : trimBlanks cs = (cs.dropWhile isBlank).rdropWhile isBlank := rfl
  rw [htrim, List.rdropWhile_eq_nil_iff]
  constructor
  · intro h c hc
    rw [← List.takeWhile_append_dropWhile (p := isBlank) (l := cs), List.mem_append] at hc
    rcases hc with hfront | hback
    · exact List.mem_takeWhile_imp hfront
    · exact h c hback
  · intro h c hc
    exact h c ((List.dropWhile_suffix isBlank).mem hc)

/-- Blanks are dropped up to a word. -/
lemma dropWhile_isBlank {blanks word rest : List Char} (hblanks : Blanks blanks) (hword : word ≠ [])
    (hfront : word.head?.any isBlank = false) :
    (blanks ++ (word ++ rest)).dropWhile isBlank = word ++ rest := by
  cases word with
  | nil => exact absurd rfl hword
  | cons c word =>
    have hc : isBlank c = false := hfront
    rw [List.dropWhile_append_of_pos hblanks, List.cons_append, List.dropWhile_cons_of_neg (by simp [hc])]

lemma trimBlanks_between {before word after : List Char} (hbefore : Blanks before) (hafter : Blanks after)
    (hword : word ≠ []) (hfront : word.head?.any isBlank = false)
    (hback : word.getLast?.any isBlank = false) : trimBlanks (before ++ word ++ after) = word := by
  have hreverse : Blanks after.reverse := fun c hc => hafter c (List.mem_reverse.mp hc)
  have hlast : word.reverse.head?.any isBlank = false := by
    rwa [List.head?_reverse]
  have hrest : (after.reverse ++ (word.reverse ++ [])).dropWhile isBlank = word.reverse ++ [] :=
    dropWhile_isBlank hreverse (mt List.reverse_eq_nil_iff.mp hword) hlast
  rw [List.append_nil, ← List.reverse_append] at hrest
  rw [trimBlanks, List.append_assoc, dropWhile_isBlank hbefore hword hfront, hrest, List.reverse_reverse]

lemma trimBlanks_eq_self {cs : List Char} (h : ∀ c ∈ cs, isBlank c = false) : trimBlanks cs = cs := by
  by_cases hnil : cs = []
  · rw [hnil]
    rfl
  · have hfront : cs.head?.any isBlank = false := (Option.any_eq_false _ _).mpr fun c hc => h c (List.mem_of_head? hc)
    have hback : cs.getLast?.any isBlank = false :=
      (Option.any_eq_false _ _).mpr fun c hc => h c (List.mem_of_getLast? hc)
    have htrim := trimBlanks_between (List.forall_mem_nil _) (List.forall_mem_nil _) hnil hfront hback
    rwa [List.nil_append, List.append_nil] at htrim

/-- What follows a word takes nothing away from it. -/
lemma prefix_trimBlanks {blanks word : List Char} (hblanks : Blanks blanks) (hword : word ≠ [])
    (hfront : word.head?.any isBlank = false) (hback : word.getLast?.any isBlank = false) (rest : List Char) :
    word <+: trimBlanks (blanks ++ (word ++ rest)) := by
  have hlast : word.reverse.head?.any isBlank = false := by
    rwa [List.head?_reverse]
  have hkept : word.reverse.dropWhile isBlank = word.reverse := by
    have hdrop : ([] ++ (word.reverse ++ [])).dropWhile isBlank = word.reverse ++ [] :=
      dropWhile_isBlank (List.forall_mem_nil _) (mt List.reverse_eq_nil_iff.mp hword) hlast
    rwa [List.nil_append, List.append_nil] at hdrop
  rw [trimBlanks, dropWhile_isBlank hblanks hword hfront, List.reverse_append, List.dropWhile_append, hkept]
  split
  · exact (List.reverse_reverse word).symm ▸ List.prefix_rfl
  · rw [List.reverse_append, List.reverse_reverse]
    exact List.prefix_append _ _

/-- The pieces that are kept, each by itself. -/
lemma trimmedPieces_eq_filterMap (sep : Char) (cs : List Char) :
    trimmedPieces sep cs = (pieces sep cs).filterMap fun piece =>
      if Blanks piece then none else some (trimBlanks piece) := by
  rw [trimmedPieces, List.filter_map, ← List.filterMap_eq_map, List.filterMap_filter]
  refine List.filterMap_congr fun piece _ => ?_
  simp only [Function.comp_apply, ← trimBlanks_eq_nil_iff, Bool.not_eq_true', List.isEmpty_eq_false_iff]
  by_cases h : trimBlanks piece = [] <;> simp [h]

lemma trimmedPieces_eq_nil_iff {sep : Char} {cs : List Char} :
    trimmedPieces sep cs = [] ↔ ∀ c ∈ cs, c = sep ∨ isBlank c = true := by
  rw [← forall_mem_pieces_iff, trimmedPieces_eq_filterMap, List.filterMap_eq_nil_iff]
  refine forall₂_congr fun piece _ => ?_
  change _ ↔ Blanks piece
  by_cases h : Blanks piece <;> simp [h]

/-! ### Blanks at the ends -/

section Padding

variable {sep : Char} {before after : List Char}

lemma trimBlanks_padded (hbefore : Blanks before) (hafter : Blanks after)
    (cs : List Char) : trimBlanks (before ++ cs ++ after) = trimBlanks cs := by
  have hreverse : Blanks after.reverse := fun c hc => hafter c (List.mem_reverse.mp hc)
  unfold trimBlanks
  rw [List.append_assoc, List.dropWhile_append_of_pos hbefore, List.dropWhile_append]
  split
  · -- nothing but blanks is left on either side
    rename_i hblank
    rw [List.isEmpty_iff] at hblank
    rw [hblank, List.dropWhile_eq_nil_iff.mpr hafter]
  · rw [List.reverse_append, List.dropWhile_append_of_pos hreverse]

lemma exists_eq_padded (cs : List Char) :
    ∃ before after, Blanks before ∧ Blanks after ∧ cs = before ++ trimBlanks cs ++ after := by
  let back := (cs.dropWhile isBlank).reverse
  refine ⟨cs.takeWhile isBlank, (back.takeWhile isBlank).reverse, ?_, ?_, ?_⟩
  · exact fun c hc => List.mem_takeWhile_imp hc
  · exact fun c hc => List.mem_takeWhile_imp (List.mem_reverse.mp hc)
  · have hback : trimBlanks cs ++ (back.takeWhile isBlank).reverse = cs.dropWhile isBlank := by
      rw [trimBlanks, ← List.reverse_append, List.takeWhile_append_dropWhile, List.reverse_reverse]
    rw [List.append_assoc, hback, List.takeWhile_append_dropWhile]

/-- Blanks at the ends of a text change no piece that is read without its own. -/
lemma filterMap_pieces_padded {β : Type} {read : List Char → Option β}
    (hsep : isBlank sep = false)
    (hread : ∀ {before after}, Blanks before → Blanks after → ∀ slot,
      read (before ++ slot ++ after) = read slot)
    (hbefore : Blanks before) (hafter : Blanks after) (cs : List Char) :
    (pieces sep (before ++ cs ++ after)).filterMap read = (pieces sep cs).filterMap read := by
  -- by the length of the text, as it is cut at any separator into two shorter ones
  induction hlength : cs.length using Nat.strong_induction_on generalizing cs before after with
  | _ n ih =>
    by_cases hmem : sep ∈ cs
    · obtain ⟨front, back, rfl⟩ := List.append_of_mem hmem
      rw [List.length_append, List.length_cons] at hlength
      have hfront := ih front.length (by omega) hbefore (List.forall_mem_nil _) front rfl
      have hback := ih back.length (by omega) (List.forall_mem_nil _) hafter back rfl
      have hsplit : before ++ (front ++ sep :: back) ++ after =
          (before ++ front ++ []) ++ sep :: ([] ++ back ++ after) := by simp
      rw [hsplit, pieces_append, pieces_append, List.filterMap_append, List.filterMap_append, hfront, hback]
    · have hnone : sep ∉ before ++ cs ++ after := by
        simp only [List.mem_append, not_or]
        exact ⟨⟨hbefore.notMem hsep, hmem⟩, hafter.notMem hsep⟩
      rw [pieces_of_notMem hnone, pieces_of_notMem hmem, List.filterMap_cons, List.filterMap_cons,
        hread hbefore hafter]

lemma trimmedPieces_padded (hsep : isBlank sep = false) (hbefore : Blanks before) (hafter : Blanks after)
    (cs : List Char) :
    trimmedPieces sep (before ++ cs ++ after) = trimmedPieces sep cs := by
  rw [trimmedPieces_eq_filterMap, trimmedPieces_eq_filterMap]
  apply filterMap_pieces_padded hsep _ hbefore hafter
  intro before after hbefore hafter slot
  have htrim := trimBlanks_padded hbefore hafter slot
  simp only [← trimBlanks_eq_nil_iff, htrim]

end Padding

end TextSearch.Proofs
