import Mathlib.Tactic.Lemma
import TextSearch.Index.Stored
import TextSearch.Proofs.DiskWrites
import TextSearch.Proofs.TextPieces

/-!
# Saved files

The files of an index stand side by side in one directory. Saving an index writes them one after the other,
and when all are written each of them reads back.
-/

namespace TextSearch.Proofs
open Storage Disk

/-! ### Paths of an index -/

lemma startsWith_append {s : String} (hs : s ≠ "") (t : String) :
    (s ++ t).startsWith "/" = s.startsWith "/" := by
  rw [Bool.eq_iff_iff, String.startsWith_string_iff, String.startsWith_string_iff, String.toList_append]
  cases hchars : s.toList with
  | nil => exact absurd (String.toList_eq_nil_iff.mp hchars) hs
  | cons c cs => simp

lemma joinPath_append (directory : String) {s : String} (hs : s ≠ "") (t : String) :
    joinPath directory (s ++ t) = joinPath directory s ++ t := by
  unfold joinPath
  rw [startsWith_append hs]
  split_ifs
  · rfl
  · rw [String.append_assoc]
  · simp only [String.append_assoc]

lemma joinPath_ne_empty (directory : String) {s : String} (hs : s ≠ "") : joinPath directory s ≠ "" := by
  unfold joinPath
  split_ifs <;> simp [hs]

/-- The paths of an index differ in their extensions only. -/
lemma exists_stem (location : Location) :
    ∃ stem : String, stem ≠ "" ∧ ∀ extension, location.file extension = stem ++ ("." ++ extension) := by
  let name := if location.name.isEmpty then "sieve" else location.name
  have hname : name ≠ "" := by
    dsimp only [name]
    split_ifs with h
    · decide
    · simpa using h
  refine ⟨joinPath location.directory name, joinPath_ne_empty _ hname, fun extension => ?_⟩
  rw [← joinPath_append _ hname, ← String.append_assoc]
  rfl

/-- An extension that keeps the name of a file in one piece, and one that leads on. -/
structure IsExtension (extension : String) : Prop where
  whole : '/' ∉ extension.toList
  long : 2 ≤ extension.length

instance (extension : String) : Decidable (IsExtension extension) :=
  decidable_of_iff ('/' ∉ extension.toList ∧ 2 ≤ extension.length) ⟨fun h => ⟨h.1, h.2⟩, fun h => ⟨h.1, h.2⟩⟩

lemma exists_steps (location : Location) :
    ∃ front last, ∀ extension, IsExtension extension →
      steps (location.file extension) = front ++ [last ++ ("." ++ extension)] := by
  obtain ⟨stem, -, hstem⟩ := exists_stem location
  obtain ⟨front, last, hpieces⟩ := exists_pieces_append '/' stem.toList
  refine ⟨front.map String.ofList, String.ofList last, fun extension hextension => ?_⟩
  have hback : '/' ∉ ("." ++ extension).toList := by
    simpa using hextension.whole
  rw [steps, hstem, String.toList_append, hpieces _ hback, List.map_append, List.map_singleton,
    String.ofList_append, String.ofList_toList]

section Extensions

variable {location : Location} {extension extension' : String}

lemma siblings_file (h : IsExtension extension) (h' : IsExtension extension') :
    Siblings (location.file extension) (location.file extension') := by
  obtain ⟨stem, hne, hstem⟩ := exists_stem location
  obtain ⟨front, last, hsteps⟩ := exists_steps location
  constructor
  · intro disk
    rw [start, start, hstem, hstem, startsWith_append hne, startsWith_append hne]
  · rw [directorySteps, directorySteps, hsteps _ h, hsteps _ h', List.dropLast_concat, List.dropLast_concat]

lemma exists_lastStep (location : Location) :
    ∃ last, ∀ extension, IsExtension extension → lastStep (location.file extension) = last ++ ("." ++ extension) := by
  obtain ⟨front, last, hsteps⟩ := exists_steps location
  refine ⟨last, fun extension h => ?_⟩
  rw [lastStep, hsteps _ h, List.getLast?_concat, Option.getD_some]

lemma isPlain_of_length {name : String} (h : 2 < name.length) : IsPlain name := by
  have hne : ∀ short : String, short.length ≤ 2 → name ≠ short := by
    rintro short hshort rfl
    omega
  exact ⟨by simp [isIdle, hne "" (by decide), hne "." (by decide)], hne ".." (by decide)⟩

lemma apart_file (h : IsExtension extension) (h' : IsExtension extension') (hne : extension ≠ extension') :
    Apart (location.file extension) (location.file extension') := by
  obtain ⟨last, hlast⟩ := exists_lastStep location
  have hplain : ∀ extension, IsExtension extension → IsPlain (lastStep (location.file extension)) := by
    intro extension h
    have hlong := h.long
    refine isPlain_of_length ?_
    rw [hlast _ h, String.length_append, String.length_append]
    have hdot : ".".length = 1 := rfl
    omega
  refine apart_of_lastStep_ne (hplain _ h) (hplain _ h') ?_
  rw [hlast _ h, hlast _ h']
  exact fun heq => hne ((String.append_right_inj ".").mp ((String.append_right_inj last).mp heq))

end Extensions

/-! ### Runs of writes -/

section Runs

variable {disk after : Disk} {file : String × List UInt8} {files : List (String × List UInt8)}

lemma run_writeFiles_cons : (writeFiles access (file :: files)).run disk = (.ok (), after) ↔
    ∃ next, disk.write file.1 file.2 = (next, .ok ()) ∧ (writeFiles access files).run next = (.ok (), after) := by
  obtain ⟨path, bytes⟩ := file
  have hfirst : (access.write path bytes).run disk = (disk.write path bytes).swap := rfl
  rw [writeFiles, StateT.run_bind, hfirst]
  rcases disk.write path bytes with ⟨next, fault | done⟩
  · constructor
    · intro h
      exact nomatch (Prod.mk.inj h).1
    · rintro ⟨_, h, -⟩
      exact nomatch (Prod.mk.inj h).2
  · constructor
    · exact fun h => ⟨next, rfl, h⟩
    · rintro ⟨_, h, hrest⟩
      obtain ⟨rfl, -⟩ := Prod.mk.inj h
      exact hrest

lemma read_writeFiles_of_apart {path : String} {bytes : List UInt8} (hapart : ∀ file ∈ files, Apart path file.1)
    (h : (writeFiles access files).run disk = (.ok (), after)) (hread : disk.read path = .ok bytes) :
    after.read path = .ok bytes := by
  induction files generalizing disk with
  | nil =>
    obtain ⟨-, rfl⟩ := Prod.mk.inj h
    exact hread
  | cons file files ih =>
    obtain ⟨hfile, hfiles⟩ := List.forall_mem_cons.mp hapart
    obtain ⟨next, hwrite, hrest⟩ := run_writeFiles_cons.mp h
    exact ih hfiles hrest (read_write_of_apart hfile hwrite hread)

/-- All files read back when the last one is written. -/
lemma read_writeFiles (hapart : (files.map Prod.fst).Pairwise Apart)
    (h : (writeFiles access files).run disk = (.ok (), after)) :
    ∀ file ∈ files, after.read file.1 = .ok file.2 := by
  induction files generalizing disk with
  | nil => exact List.forall_mem_nil _
  | cons file files ih =>
    obtain ⟨hfile, hfiles⟩ := List.pairwise_cons.mp hapart
    obtain ⟨next, hwrite, hrest⟩ := run_writeFiles_cons.mp h
    refine List.forall_mem_cons.mpr ⟨?_, ih hfiles hrest⟩
    exact read_writeFiles_of_apart (fun later hlater => hfile _ (List.mem_map_of_mem hlater)) hrest
      (read_of_write hwrite)

/-- Files of one directory can be written one after the other if each of them can be written by itself. -/
lemma exists_writeFiles_iff (hsiblings : (files.map Prod.fst).Pairwise Siblings) :
    (∃ after, (writeFiles access files).run disk = (.ok (), after)) ↔
      ∀ path ∈ files.map Prod.fst, (disk.write path []).2 = .ok () := by
  induction files generalizing disk with
  | nil => exact ⟨fun _ => List.forall_mem_nil _, fun _ => ⟨disk, rfl⟩⟩
  | cons file files ih =>
    obtain ⟨hfile, hfiles⟩ := List.pairwise_cons.mp hsiblings
    have hrest : ∀ {next}, disk.write file.1 file.2 = (next, .ok ()) →
        ((∃ after, (writeFiles access files).run next = (.ok (), after)) ↔
          ∀ path ∈ files.map Prod.fst, (disk.write path []).2 = .ok ()) := by
      intro next hwrite
      rw [ih hfiles]
      exact forall₂_congr fun path hpath => (hfile path hpath).writable_congr hwrite
    rw [List.map_cons, List.forall_mem_cons, writable_congr_bytes [] file.2]
    constructor
    · rintro ⟨after, h⟩
      obtain ⟨next, hwrite, hrun⟩ := run_writeFiles_cons.mp h
      exact ⟨by rw [hwrite], (hrest hwrite).mp ⟨after, hrun⟩⟩
    · rintro ⟨hfirst, hlater⟩
      have hwrite : disk.write file.1 file.2 = ((disk.write file.1 file.2).1, .ok ()) := Prod.ext rfl hfirst
      obtain ⟨after, hrun⟩ := (hrest hwrite).mpr hlater
      exact ⟨after, run_writeFiles_cons.mpr ⟨_, hwrite, hrun⟩⟩

end Runs

/-! ### Saving -/

section Saving

variable {disk after : Disk} {location : Location} {index : Index} {records : List (Term × PostingList)}

lemma map_fst_filesOf (location : Location) (index : Index) (records : List (Term × PostingList)) :
    (filesOf location index records).map Prod.fst =
      ("lci" :: Kind.all.map Kind.extension).map location.file := rfl

lemma pairwise_filesOf {R : String → String → Prop}
    (h : ∀ {a b}, IsExtension a → IsExtension b → a ≠ b → R (location.file a) (location.file b)) :
    ((filesOf location index records).map Prod.fst).Pairwise R := by
  have hextensions : ("lci" :: Kind.all.map Kind.extension).Pairwise fun a b =>
      IsExtension a ∧ IsExtension b ∧ a ≠ b := by decide
  rw [map_fst_filesOf, List.pairwise_map]
  exact hextensions.imp fun {a b} hab => h hab.1 hab.2.1 hab.2.2

/-- An index can be saved exactly where each of its files can be written by itself. -/
theorem exists_save_iff : (∃ after, (save access location index records).run disk = (.ok (), after)) ↔
    ∀ path ∈ location.files, (disk.write path []).2 = .ok () :=
  exists_writeFiles_iff (pairwise_filesOf fun ha hb _ => siblings_file ha hb)

/-- After an index was saved, each of its files holds what was written to it. -/
theorem read_of_save (h : (save access location index records).run disk = (.ok (), after)) :
    ∀ file ∈ filesOf location index records, after.read file.1 = .ok file.2 :=
  read_writeFiles (pairwise_filesOf apart_file) h

end Saving

end TextSearch.Proofs
