import Mathlib.Data.List.DropRight
import Mathlib.Tactic.Lemma
import TextSearch.Proofs.Outcomes
import TextSearch.Storage.Disk

/-!
# Writing to a disk

A file that was written reads back, and writing it leaves all directories and all other files as they were.
Whether it can be written depends neither on its bytes nor on the other files of its directory.
-/

namespace TextSearch.Proofs
open Storage Disk

variable {disk after : Disk} {origin place other : Place} {entry : Entry} {names : List String}
  {path : String} {bytes : List UInt8}

/-! ### Entries -/

lemma entry?_put_self (h : place ≠ []) : Disk.entry? (disk.put place entry) place = some entry := by
  unfold Disk.entry? put
  simp [h]

lemma entry?_put_of_ne (h : other ≠ place) : Disk.entry? (disk.put place entry) other = disk.entry? other := by
  unfold Disk.entry? put remove
  rw [List.find?_cons_of_neg (by simpa using Ne.symm h), List.find?_filter]
  congr 3
  funext e
  by_cases he : e.1 = other <;> simp [he, h]

def IsDirectory (disk : Disk) (place : Place) : Prop := disk.entry? place = some .directory

lemma ne_nil_of_not_isDirectory (h : ¬IsDirectory disk place) : place ≠ [] := by
  rintro rfl
  exact h rfl

lemma IsDirectory.put (hplace : ¬IsDirectory disk place) (h : IsDirectory disk other) :
    IsDirectory (disk.put place entry) other := by
  have hne : other ≠ place := fun he => hplace (he ▸ h)
  rwa [IsDirectory, entry?_put_of_ne hne]

/-- A file that is put where no directory stands makes no directory and takes none away. -/
lemma isDirectory_putFile_iff (hplace : ¬IsDirectory disk place) :
    IsDirectory (disk.put place (.file bytes)) other ↔ IsDirectory disk other := by
  refine ⟨fun h => ?_, fun h => h.put hplace⟩
  by_cases he : other = place
  · rw [IsDirectory, he, entry?_put_self (ne_nil_of_not_isDirectory hplace)] at h
    cases h
  · rwa [IsDirectory, entry?_put_of_ne he] at h

/-! ### Ways -/

lemma checkDirectory_eq_ok_iff : disk.checkDirectory place = .ok () ↔ IsDirectory disk place := by
  unfold checkDirectory IsDirectory
  split <;> simp_all

lemma walk_cons_eq_ok_iff {name : String} :
    disk.walk origin (name :: names) = .ok place ↔
      IsDirectory disk origin ∧ ∃ next, step origin name = .ok next ∧ disk.walk next names = .ok place := by
  rw [walk, bind_eq_ok_iff, ← checkDirectory_eq_ok_iff]
  constructor
  · rintro ⟨⟨⟩, hcheck, hrest⟩
    exact ⟨hcheck, bind_eq_ok_iff.mp hrest⟩
  · rintro ⟨hcheck, hrest⟩
    exact ⟨(), hcheck, bind_eq_ok_iff.mpr hrest⟩

lemma walk_singleton_eq_ok_iff {name : String} :
    disk.walk origin [name] = .ok place ↔ IsDirectory disk origin ∧ step origin name = .ok place := by
  rw [walk_cons_eq_ok_iff]
  simp [walk]

lemma walk_append_eq_ok_iff {front back : List String} :
    disk.walk origin (front ++ back) = .ok place ↔
      ∃ middle, disk.walk origin front = .ok middle ∧ disk.walk middle back = .ok place := by
  induction front generalizing origin with
  | nil => simp [walk]
  | cons name front ih =>
    simp only [List.cons_append, walk_cons_eq_ok_iff, ih]
    constructor
    · rintro ⟨horigin, next, hstep, middle, hfront, hback⟩
      exact ⟨middle, ⟨horigin, next, hstep, hfront⟩, hback⟩
    · rintro ⟨middle, ⟨horigin, next, hstep, hfront⟩, hback⟩
      exact ⟨horigin, next, hstep, middle, hfront, hback⟩

lemma walk_mono (hdirectories : ∀ {place}, IsDirectory disk place → IsDirectory after place)
    (h : disk.walk origin names = .ok place) : after.walk origin names = .ok place := by
  induction names generalizing origin with
  | nil => exact h
  | cons name names ih =>
    obtain ⟨horigin, next, hstep, hrest⟩ := walk_cons_eq_ok_iff.mp h
    exact walk_cons_eq_ok_iff.mpr ⟨hdirectories horigin, next, hstep, ih hrest⟩

lemma step_of_isIdle {name : String} (h : isIdle name = true) : step origin name = .ok origin := by
  have hshort : ¬nameLimit < name.utf8ByteSize := by
    simp only [isIdle, Bool.or_eq_true, String.isEmpty_iff, decide_eq_true_eq] at h
    rcases h with rfl | rfl <;> decide
  rw [step, if_neg hshort, if_pos h]

/-- Idle steps lead nowhere else. -/
lemma walk_idle (horigin : IsDirectory disk origin) (hidle : ∀ name ∈ names, isIdle name = true) :
    disk.walk origin names = .ok origin := by
  induction names with
  | nil => rfl
  | cons name names ih =>
    obtain ⟨hname, hnames⟩ := List.forall_mem_cons.mp hidle
    exact walk_cons_eq_ok_iff.mpr ⟨horigin, origin, step_of_isIdle hname, ih hnames⟩

lemma dropLast_append_lastStep (path : String) : (steps path).dropLast ++ [lastStep path] = steps path := by
  have hne : steps path ≠ [] := mt List.map_eq_nil_iff.mp (Text.pieces_ne_nil '/' path.toList)
  rw [lastStep, List.getLast?_eq_some_getLast hne, Option.getD_some, List.dropLast_concat_getLast]

lemma exists_idle_steps (path : String) :
    ∃ idle, (∀ name ∈ idle, isIdle name = true) ∧
      steps path = directorySteps path ++ (idle ++ [lastStep path]) := by
  let front := (steps path).dropLast.reverse
  refine ⟨(front.takeWhile isIdle).reverse, fun name hname => ?_, ?_⟩
  · exact List.mem_takeWhile_imp (List.mem_reverse.mp hname)
  · have hfront : directorySteps path ++ (front.takeWhile isIdle).reverse = (steps path).dropLast := by
      rw [directorySteps, ← List.reverse_append, List.takeWhile_append_dropWhile, List.reverse_reverse]
    rw [← List.append_assoc, hfront, dropLast_append_lastStep]

/-! ### Making directories -/

/-- What making directories leaves: all that stood before, and the way. -/
structure Opens (disk made : Disk) (origin : Place) (names : List String) (place : Place) : Prop where
  home : made.home = disk.home
  entries : ∀ other entry, disk.entry? other = some entry → made.entry? other = some entry
  way : made.walk origin names = .ok place

lemma opens_makeDirectories {made : Disk} (h : disk.makeDirectories origin names = (made, .ok place)) :
    Opens disk made origin names place := by
  induction names generalizing disk origin with
  | nil =>
    obtain ⟨rfl, hplace⟩ := Prod.mk.inj h
    exact ⟨rfl, fun _ _ hentry => hentry, hplace⟩
  | cons name names ih =>
    rw [makeDirectories] at h
    split at h
    · exact nomatch (Prod.mk.inj h).2
    · rename_i next hnext
      obtain ⟨horigin, hstep⟩ := walk_singleton_eq_ok_iff.mp hnext
      split at h
      · have hrest := ih h
        refine ⟨hrest.home, hrest.entries, walk_cons_eq_ok_iff.mpr ⟨?_, next, hstep, hrest.way⟩⟩
        exact hrest.entries _ _ horigin
      · exact nomatch (Prod.mk.inj h).2
      · rename_i hnone
        have hrest := ih h
        -- The new directory replaces nothing, since nothing stood at its place.
        have hkept : ∀ other entry, disk.entry? other = some entry → made.entry? other = some entry := by
          intro other entry hentry
          have hne : other ≠ next := by
            rintro rfl
            exact absurd (hentry.symm.trans hnone) (Option.some_ne_none entry)
          exact hrest.entries _ _ ((entry?_put_of_ne hne).trans hentry)
        exact ⟨hrest.home, hkept, walk_cons_eq_ok_iff.mpr ⟨hkept _ _ horigin, next, hstep, hrest.way⟩⟩

/-- Where all directories stand, none is made. -/
lemma makeDirectories_of_walk (h : disk.walk origin names = .ok place) (hplace : IsDirectory disk place) :
    disk.makeDirectories origin names = (disk, .ok place) := by
  induction names generalizing origin with
  | nil => rw [makeDirectories, Except.ok.inj h]
  | cons name names ih =>
    obtain ⟨horigin, next, hstep, hrest⟩ := walk_cons_eq_ok_iff.mp h
    have hdirectory : disk.entry? next = some .directory := by
      cases names with
      | nil => rwa [Except.ok.inj hrest]
      | cons _ _ => exact (walk_cons_eq_ok_iff.mp hrest).1
    rw [makeDirectories, walk_singleton_eq_ok_iff.mpr ⟨horigin, hstep⟩]
    dsimp only
    rw [hdirectory]
    exact ih hrest

lemma makeDirectoryOf_eq_ok_iff {made : Disk} :
    disk.makeDirectoryOf path = (made, .ok place) ↔
      disk.makeDirectories (disk.start path) (directorySteps path) = (made, .ok place) ∧
        (directorySteps path ≠ [] → checkPath ("/".intercalate (directorySteps path)) = .ok ()) := by
  unfold makeDirectoryOf
  split
  · rename_i hnil
    simp [hnil, makeDirectories]
  · rename_i hne
    cases checkPath ("/".intercalate (directorySteps path)) with
    | error fault => simpa using fun _ => hne
    | ok _ => simp

/-! ### Writing -/

lemma putFile_eq_ok_iff {name : String} :
    disk.putFile origin name bytes = (after, .ok ()) ↔
      ∃ place, disk.walk origin [name] = .ok place ∧ ¬IsDirectory disk place ∧
        disk.put place (.file bytes) = after := by
  unfold putFile IsDirectory
  cases disk.walk origin [name] with
  | error fault => simp
  | ok place =>
    dsimp only
    split
    · rename_i hdirectory
      simp [hdirectory]
    · rename_i hfree
      simpa using fun _ => hfree

/-- What writing takes: the directory of the file stands or can be made, the path is valid, and it does not
lead to a directory. -/
lemma write_eq_ok_iff :
    disk.write path bytes = (after, .ok ()) ↔
      ∃ made parent, disk.makeDirectoryOf path = (made, .ok parent) ∧ checkPath path = .ok () ∧
        made.putFile parent (lastStep path) bytes = (after, .ok ()) := by
  unfold write
  rcases disk.makeDirectoryOf path with ⟨made, fault | parent⟩
  · simp
  · cases checkPath path with
    | error fault => simp
    | ok _ => simp

/-- What a written file leaves behind: it stands where its path leads, and everything else stands as before. -/
structure Written (disk after : Disk) (path : String) (bytes : List UInt8) (place : Place) : Prop where
  home : after.home = disk.home
  valid : checkPath path = .ok ()
  way : after.walk (after.start path) (steps path) = .ok place
  file : after.entry? place = some (.file bytes)
  free : ¬IsDirectory disk place
  others : ∀ other ≠ place, ∀ entry, disk.entry? other = some entry → after.entry? other = some entry

lemma start_congr (h : after.home = disk.home) (path : String) : after.start path = disk.start path := by
  rw [start, start, h]

lemma exists_written (h : disk.write path bytes = (after, .ok ())) :
    ∃ place, Written disk after path bytes place := by
  obtain ⟨made, parent, hmade, hvalid, hput⟩ := write_eq_ok_iff.mp h
  obtain ⟨place, hwalk, hfree, rfl⟩ := putFile_eq_ok_iff.mp hput
  have hopens := opens_makeDirectories (makeDirectoryOf_eq_ok_iff.mp hmade).1
  obtain ⟨idle, hidle, hsteps⟩ := exists_idle_steps path
  have hparent : IsDirectory made parent := (walk_singleton_eq_ok_iff.mp hwalk).1
  have hway : made.walk (disk.start path) (steps path) = .ok place := by
    rw [hsteps]
    exact walk_append_eq_ok_iff.mpr ⟨parent, hopens.way,
      walk_append_eq_ok_iff.mpr ⟨parent, walk_idle hparent hidle, hwalk⟩⟩
  refine ⟨place, hopens.home, hvalid, ?_, entry?_put_self (ne_nil_of_not_isDirectory hfree),
    fun hdirectory => hfree (hopens.entries _ _ hdirectory), fun other hne entry hentry => ?_⟩
  · have hhome : (made.put place (.file bytes)).home = disk.home := hopens.home
    rw [start_congr hhome]
    exact walk_mono (IsDirectory.put hfree) hway
  · rw [entry?_put_of_ne hne]
    exact hopens.entries _ _ hentry

lemma Written.isDirectory (h : Written disk after path bytes place) (hother : IsDirectory disk other) :
    IsDirectory after other := by
  have hne : other ≠ place := fun he => h.free (he ▸ hother)
  exact h.others _ hne _ hother

/-! ### Reading what was written -/

lemma read_eq_ok_iff :
    disk.read path = .ok bytes ↔ checkPath path = .ok () ∧
      ∃ place, disk.walk (disk.start path) (steps path) = .ok place ∧ disk.entry? place = some (.file bytes) := by
  unfold Disk.read
  cases checkPath path with
  | error fault => simp
  | ok _ =>
    cases disk.walk (disk.start path) (steps path) with
    | error fault => simp
    | ok place =>
      simp only [ok_bind, true_and, Except.ok.injEq, exists_eq_left']
      split <;> simp_all

theorem read_of_write (h : disk.write path bytes = (after, .ok ())) : after.read path = .ok bytes := by
  obtain ⟨place, hwritten⟩ := exists_written h
  exact read_eq_ok_iff.mpr ⟨hwritten.valid, place, hwritten.way, hwritten.file⟩

/-- Whether two paths lead to different places. -/
def Apart (path path' : String) : Prop :=
  ∀ (disk : Disk) (place : Place), disk.walk (disk.start path) (steps path) = .ok place →
    disk.walk (disk.start path') (steps path') ≠ .ok place

theorem read_write_of_apart {path' : String} {bytes' : List UInt8} (hapart : Apart path path')
    (h : disk.write path' bytes' = (after, .ok ())) (hread : disk.read path = .ok bytes) :
    after.read path = .ok bytes := by
  obtain ⟨place', hwritten⟩ := exists_written h
  obtain ⟨hvalid, place, hway, hfile⟩ := read_eq_ok_iff.mp hread
  have hlater : after.walk (after.start path) (steps path) = .ok place := by
    rw [start_congr hwritten.home]
    exact walk_mono hwritten.isDirectory hway
  have hne : place ≠ place' := by
    rintro rfl
    exact hapart after place hlater hwritten.way
  exact read_eq_ok_iff.mpr ⟨hvalid, place, hlater, hwritten.others place hne _ hfile⟩

/-- A name that leads on. -/
def IsPlain (name : String) : Prop := isIdle name = false ∧ name ≠ ".."

lemma step_eq_ok_of_isPlain {name : String} (hname : IsPlain name) (h : step origin name = .ok place) :
    place = origin ++ [name] := by
  unfold step at h
  rw [hname.1, if_neg hname.2] at h
  split at h
  · cases h
  · exact (Except.ok.inj h).symm

lemma exists_parent (h : disk.walk origin (steps path) = .ok place) (hplain : IsPlain (lastStep path)) :
    ∃ parent, place = parent ++ [lastStep path] := by
  rw [← dropLast_append_lastStep] at h
  obtain ⟨parent, -, hlast⟩ := walk_append_eq_ok_iff.mp h
  exact ⟨parent, step_eq_ok_of_isPlain hplain (walk_singleton_eq_ok_iff.mp hlast).2⟩

lemma apart_of_lastStep_ne {path' : String} (hplain : IsPlain (lastStep path)) (hplain' : IsPlain (lastStep path'))
    (hne : lastStep path ≠ lastStep path') : Apart path path' := by
  intro disk place hway hway'
  obtain ⟨parent, rfl⟩ := exists_parent hway hplain
  obtain ⟨parent', heq⟩ := exists_parent hway' hplain'
  exact hne (List.singleton_inj.mp (List.append_inj_right' heq rfl))

/-! ### Files of one directory -/

lemma writable_iff : (disk.write path bytes).2 = .ok () ↔
    ∃ made parent, disk.makeDirectoryOf path = (made, .ok parent) ∧ checkPath path = .ok () ∧
      ∃ place, made.walk parent [lastStep path] = .ok place ∧ ¬IsDirectory made place := by
  have hwrite : (disk.write path bytes).2 = .ok () ↔ ∃ after, disk.write path bytes = (after, .ok ()) :=
    ⟨fun hok => ⟨_, Prod.ext rfl hok⟩, fun ⟨_, hok⟩ => by rw [hok]⟩
  simp only [hwrite, write_eq_ok_iff, putFile_eq_ok_iff]
  constructor
  · rintro ⟨after, made, parent, hmade, hvalid, place, hwalk, hfree, -⟩
    exact ⟨made, parent, hmade, hvalid, place, hwalk, hfree⟩
  · rintro ⟨made, parent, hmade, hvalid, place, hwalk, hfree⟩
    exact ⟨_, made, parent, hmade, hvalid, place, hwalk, hfree, rfl⟩

/-- What is written decides nothing. -/
lemma writable_congr_bytes (bytes bytes' : List UInt8) :
    (disk.write path bytes).2 = .ok () ↔ (disk.write path bytes').2 = .ok () := by
  rw [writable_iff, writable_iff]

/-- Whether two paths name files of the same directory. -/
structure Siblings (path path' : String) : Prop where
  start : ∀ disk : Disk, disk.start path = disk.start path'
  directory : directorySteps path = directorySteps path'

section Siblings

variable {path' : String}

lemma Siblings.makeDirectoryOf (h : Siblings path path') (disk : Disk) :
    disk.makeDirectoryOf path = disk.makeDirectoryOf path' := by
  unfold Disk.makeDirectoryOf
  rw [h.start, h.directory]

/-- Whether a file can be written does not depend on whether another one of its directory was. -/
theorem Siblings.writable_congr {bytes' : List UInt8} (hsiblings : Siblings path path')
    (h : disk.write path bytes = (after, .ok ())) :
    (after.write path' bytes').2 = .ok () ↔ (disk.write path' bytes').2 = .ok () := by
  obtain ⟨made, parent, hmade, -, hput⟩ := write_eq_ok_iff.mp h
  obtain ⟨place, hwalk, hfree, hafter⟩ := putFile_eq_ok_iff.mp hput
  have hdirectories : ∀ {other}, IsDirectory after other ↔ IsDirectory made other := by
    subst hafter
    exact isDirectory_putFile_iff hfree
  have hwalks : ∀ {origin names place}, after.walk origin names = .ok place ↔ made.walk origin names = .ok place :=
    ⟨walk_mono hdirectories.mp, walk_mono hdirectories.mpr⟩
  rw [hsiblings.makeDirectoryOf] at hmade
  have hagain : after.makeDirectoryOf path' = (after, .ok parent) := by
    obtain ⟨hmake, hvalid⟩ := makeDirectoryOf_eq_ok_iff.mp hmade
    obtain ⟨_, hwritten⟩ := exists_written h
    have hparent : IsDirectory made parent := (walk_singleton_eq_ok_iff.mp hwalk).1
    refine makeDirectoryOf_eq_ok_iff.mpr ⟨?_, hvalid⟩
    rw [start_congr hwritten.home]
    exact makeDirectories_of_walk (hwalks.mpr (opens_makeDirectories hmake).way) (hdirectories.mpr hparent)
  simp only [writable_iff, hagain, hmade, Prod.mk.injEq, Except.ok.injEq, and_assoc, exists_and_left,
    exists_eq_left', hwalks, hdirectories]

end Siblings

end TextSearch.Proofs
