/-
This file states what the operations on a directory do. None of them changes anything at a place
that is not one of its names.
-/

import Graft.Proofs.Directory.Place
import Graft.Proofs.Entries

namespace Graft.Directory

variable {directory first second after : Directory} {name target : String} {content : ByteArray}

/-- The directory with a file put at a place. -/
def withFile (directory : Directory) (place : String) (content : ByteArray) : Directory :=
  ⟨Entries.put place (.file content) directory.items⟩

/-- The directory without the item at a place. -/
def without (directory : Directory) (place : String) : Directory :=
  ⟨Entries.erase place directory.items⟩

/-- No place comes twice. -/
def Distinct (directory : Directory) : Prop := (Entries.keys directory.items).Nodup

instance (directory : Directory) : Decidable directory.Distinct :=
  inferInstanceAs (Decidable (List.Nodup _))

@[simp] theorem at?_withFile_same (directory : Directory) (place : String) (content : ByteArray) :
    (directory.withFile place content).at? place = some (.file content) :=
  Entries.find?_put_same _ _ _

theorem at?_withFile_other {place other : String} (different : other ≠ place)
    (directory : Directory) (content : ByteArray) :
    (directory.withFile place content).at? other = directory.at? other :=
  Entries.find?_put_other different _ _

theorem at?_without_same (distinct : directory.Distinct) (place : String) :
    (directory.without place).at? place = none :=
  Entries.find?_erase_same distinct place

theorem at?_without_other {place other : String} (different : other ≠ place)
    (directory : Directory) : (directory.without place).at? other = directory.at? other :=
  Entries.find?_erase_other different _

theorem Distinct.withFile (distinct : directory.Distinct) (place : String) (content : ByteArray) :
    (directory.withFile place content).Distinct :=
  Entries.nodup_put distinct _ _

theorem Distinct.without (distinct : directory.Distinct) (place : String) :
    (directory.without place).Distinct :=
  Entries.nodup_erase distinct _

/-- An item and the folders on the way to it are added at distinct places. -/
theorem Distinct.add (distinct : directory.Distinct) (name : String) (item : Item) :
    (directory.add name item).Distinct :=
  Entries.nodup_foldl_put _ _ _ (Entries.nodup_foldl_put _ _ _ distinct)

/-- A directory of some files has distinct places. -/
theorem distinct_ofFiles (files : List (String × ByteArray)) : (ofFiles files).Distinct := by
  have keeps : ∀ directory : Directory, directory.Distinct →
      (files.foldl (fun directory file => directory.add file.1 (.file file.2))
        directory).Distinct := by
    induction files with
    | nil => exact fun directory kept => kept
    | cons file rest inductionHypothesis =>
        exact fun directory kept => inductionHypothesis _ (kept.add _ _)
  exact keeps empty List.nodup_nil

/-- A file is read from the place of its name. -/
theorem read_eq_ok_iff :
    directory.read name = .ok content ↔
      ∃ target, directory.place name = .ok target ∧
        directory.at? target = some (.file content) := by
  rw [← item_eq_file_iff, read, Result.bind_eq_ok]
  constructor
  · rintro ⟨found, held, given⟩
    cases found with
    | folder => cases given
    | file stored =>
        cases given
        exact held
  · exact fun held => ⟨.file content, held, rfl⟩

/-- A file is written to the place of its name. -/
theorem write_eq_ok_iff :
    directory.write name content = .ok after ↔
      ∃ target, directory.place name = .ok target ∧ after = directory.withFile target content := by
  rw [write, Result.bind_eq_ok]
  refine exists_congr fun target => and_congr_right fun _ => ?_
  exact ⟨fun given => (Except.ok.inj given).symm, fun same => congrArg Except.ok same.symm⟩

/-- What a stopped write leaves is at the place of its name. -/
theorem leave_of_place (placed : directory.place name = .ok target) (left : ByteArray) :
    directory.leave name (some left) = directory.withFile target left := by
  rw [leave, write_eq_ok_iff.mpr ⟨target, placed, rfl⟩]

/-- A stopped write leaves something at the place of its name, or nothing at all. -/
theorem leave_cases (directory : Directory) (name : String) (left? : Option ByteArray) :
    directory.leave name left? = directory ∨
      ∃ target left, directory.place name = .ok target ∧
        directory.leave name left? = directory.withFile target left := by
  cases left? with
  | none => exact .inl rfl
  | some left =>
      cases placed : directory.place name with
      | error fault =>
          left
          rw [leave, write, placed]
          rfl
      | ok target => exact .inr ⟨target, left, rfl, leave_of_place placed left⟩

/-- A copy writes what is read from its source. -/
theorem copy_eq_ok_iff {source : String} :
    directory.copy source name = .ok after ↔
      ∃ content target, directory.read source = .ok content ∧
        directory.place name = .ok target ∧ after = directory.withFile target content := by
  rw [copy, Result.bind_eq_ok]
  refine exists_congr fun content => ?_
  rw [write_eq_ok_iff, ← exists_and_left]

/-- The directory with a file moved between two places, which may be the same. -/
def moved (directory : Directory) (old new : String) (content : ByteArray) : Directory :=
  if old = new then directory else (directory.without old).withFile new content

/-- A rename moves the file at the place of its source. -/
theorem rename_eq_ok_iff {source : String} :
    directory.rename source name = .ok after ↔
      ∃ content old new, directory.place source = .ok old ∧
        directory.at? old = some (.file content) ∧ directory.place name = .ok new ∧
          after = directory.moved old new content := by
  constructor
  · intro renamed
    obtain ⟨content, read, later⟩ := Result.bind_eq_ok.mp renamed
    obtain ⟨old, placed, held⟩ := read_eq_ok_iff.mp read
    rw [placed, Result.ok_bind] at later
    obtain ⟨new, placedNew, done⟩ := Result.bind_eq_ok.mp later
    refine ⟨content, old, new, placed, held, placedNew, ?_⟩
    rw [moved]
    split at done <;> rename_i same
    · rw [if_pos same, Except.ok.inj done]
    · rw [if_neg same, withFile, without, Except.ok.inj done]
  · rintro ⟨content, old, new, placed, held, placedNew, rfl⟩
    rw [rename, read_eq_ok_iff.mpr ⟨old, placed, held⟩, Result.ok_bind, placed, Result.ok_bind,
      placedNew, Result.ok_bind, moved]
    split <;> rfl

/-- A moved file is at its new place. -/
theorem at?_moved_new {old new : String} (held : directory.at? old = some (.file content)) :
    (directory.moved old new content).at? new = some (.file content) := by
  rw [moved]
  split
  · rename_i same
    rw [← same, held]
  · rw [at?_withFile_same]

/-- A moved file is gone from its old place. -/
theorem at?_moved_old {old new : String} (distinct : directory.Distinct) (apart : old ≠ new) :
    (directory.moved old new content).at? old = none := by
  rw [moved, if_neg apart, at?_withFile_other apart, at?_without_same distinct]

/-- A change that leaves alone the folders and all but some places. -/
structure Keeps (places : List String) (before after : Directory) : Prop where
  distinct : after.Distinct
  folders : SameFolders before after
  others : ∀ other, other ∉ places → after.at? other = before.at? other

theorem Keeps.refl (distinct : directory.Distinct) : Keeps [] directory directory where
  distinct := distinct
  folders _ := .rfl
  others _ _ := rfl

theorem Keeps.mono {fewer places : List String} (kept : Keeps fewer first second)
    (inside : fewer ⊆ places) : Keeps places first second where
  distinct := kept.distinct
  folders := kept.folders
  others _ outside := kept.others _ fun member => outside (inside member)

/-- Of two changes one after another all is kept that each of them keeps. -/
theorem Keeps.trans {earlier later : List String} {before middle after : Directory}
    (start : Keeps earlier before middle) (rest : Keeps later middle after) :
    Keeps (earlier ++ later) before after where
  distinct := rest.distinct
  folders place := (start.folders place).trans (rest.folders place)
  others other outside := by
    rw [List.mem_append, not_or] at outside
    rw [rest.others other outside.2, start.others other outside.1]

/-- No folder comes or goes where a file is put in the place of no folder. -/
theorem sameFolders_withFile (free : directory.at? target ≠ some .folder) (content : ByteArray) :
    SameFolders directory (directory.withFile target content) := by
  intro place
  by_cases same : place = target
  · rw [same, at?_withFile_same]
    simp [free]
  · rw [at?_withFile_other same]

/-- A file that is put in the place of no folder touches no other place. -/
theorem keeps_withFile (distinct : directory.Distinct) (free : directory.at? target ≠ some .folder)
    (content : ByteArray) : Keeps [target] directory (directory.withFile target content) where
  distinct := distinct.withFile target content
  folders := sameFolders_withFile free content
  others _ outside := at?_withFile_other (List.ne_of_not_mem_cons outside) _ _

/-- No folder comes or goes on a stopped write. -/
theorem sameFolders_leave (directory : Directory) (name : String) (left? : Option ByteArray) :
    SameFolders directory (directory.leave name left?) := by
  rcases leave_cases directory name left? with same | ⟨target, left, placed, same⟩
  · rw [same]
    exact fun _ => .rfl
  · rw [same]
    exact sameFolders_withFile (at?_of_place placed) left

/-- A stopped write touches no other place. -/
theorem keeps_leave (distinct : directory.Distinct) (name : String) (left? : Option ByteArray) :
    Keeps (directory.places [name]) directory (directory.leave name left?) := by
  rcases leave_cases directory name left? with same | ⟨target, left, placed, same⟩
  · rw [same]
    exact (Keeps.refl distinct).mono (List.nil_subset _)
  · rw [same, places_cons placed]
    exact keeps_withFile distinct (at?_of_place placed) left

/-- Erasing what is no folder touches no other place. -/
theorem keeps_without (distinct : directory.Distinct) (free : directory.at? target ≠ some .folder) :
    Keeps [target] directory (directory.without target) where
  distinct := distinct.without target
  folders place := by
    by_cases same : place = target
    · rw [same, at?_without_same distinct]
      simp [free]
    · rw [at?_without_other same]
  others _ outside := at?_without_other (List.ne_of_not_mem_cons outside) _

/-- A file is moved to the place of no folder without touching any third place. -/
theorem keeps_moved {old new : String} (distinct : directory.Distinct)
    (held : directory.at? old = some (.file content)) (free : directory.at? new ≠ some .folder) :
    Keeps [old, new] directory (directory.moved old new content) := by
  rw [moved]
  split
  · exact (Keeps.refl distinct).mono (List.nil_subset _)
  · have erased : Keeps [old] directory (directory.without old) :=
      keeps_without distinct (by rw [held]; nofun)
    have stillFree := (not_congr (erased.folders new)).mp free
    exact erased.trans (keeps_withFile erased.distinct stillFree content)

/-- A file that is put at one place and moved to another touches no third place. -/
theorem keeps_replaced {old new : String} (distinct : directory.Distinct)
    (freeOld : directory.at? old ≠ some .folder) (freeNew : directory.at? new ≠ some .folder)
    (content : ByteArray) :
    Keeps [old, new] directory ((directory.withFile old content).moved old new content) := by
  have written := keeps_withFile distinct freeOld content
  have stillFree := (not_congr (written.folders new)).mp freeNew
  have moved := keeps_moved written.distinct (at?_withFile_same directory old content) stillFree
  exact (written.trans moved).mono (by simp)

end Graft.Directory
