/-
This file states when a file can be written in a directory, and shows that a save is finished exactly
then and leaves its text in the file.
-/

import Graft.Proofs.File.Saving
import Graft.Proofs.Gzip.Stored

namespace Graft.File

open Result

variable {directory after : Directory} {name : String} {collection : Collection} {backup : Bool}

/-- A file can be written under a name when the name has a place, and so have the temporary name and,
if the old file is copied first, the name of the copy. -/
structure Writable (directory : Directory) (name : String) (backup : Bool) : Prop where
  file : Succeeds (directory.place name)
  scratch : Succeeds (directory.place (temporary name))
  copy : copies directory name backup = true →
    ∃ copy, backup? name = some copy ∧ Succeeds (directory.place copy)

/-- A content stands for a text under a name. Under the name of a compressed file it does once it is
decompressed. -/
def Holds (name : String) (content : ByteArray) (text : String) : Prop :=
  (if writesCompressed name then Gzip.decompress? content else some content) = some text.toUTF8

/-- What is written for a text stands for it. -/
theorem holds_contentOf (name text : String) : Holds name (contentOf name text) text := by
  rw [Holds, contentOf]
  split
  · exact Gzip.decompress?_compress _
  · rfl

/-- A name with a place can be read if it leads to anything. -/
theorem succeeds_read (placed : Succeeds (directory.place name))
    (there : directory.contains name = true) : Succeeds (directory.read name) := by
  obtain ⟨target, placed⟩ := placed
  rw [Directory.contains, Directory.item_of_place placed] at there
  split at there
  · rename_i content held
    exact ⟨content, Directory.read_eq_ok_iff.mpr ⟨target, placed, held⟩⟩
  · cases there

/-- A directory can be prepared for a file that can be written. -/
theorem Writable.prepared (writable : Writable directory name backup) :
    ∃ prepared, Prepared directory name backup prepared := by
  cases needed : copies directory name backup with
  | false => exact ⟨directory, .unchanged needed⟩
  | true =>
      obtain ⟨copy, named, target, placed⟩ := writable.copy needed
      obtain ⟨-, there⟩ := Bool.and_eq_true_iff.mp needed
      obtain ⟨content, read⟩ := succeeds_read writable.file there
      exact ⟨_, .copied needed named (Directory.copy_eq_ok_iff.mpr ⟨content, target, read, placed, rfl⟩)⟩

/-- A save is finished exactly when its file can be written. -/
theorem save_finished_iff (distinct : directory.Distinct) :
    (save directory name collection backup).failure? = none ↔ Writable directory name backup := by
  have finished : (save directory name collection backup).failure? = none ↔
      ∃ after, save directory name collection backup = ⟨after, none⟩ :=
    ⟨fun done => ⟨_, congrArg (Saved.mk _) done⟩, fun ⟨_, saved⟩ => saved ▸ rfl⟩
  rw [finished]
  constructor
  · rintro ⟨after, saved⟩
    obtain ⟨prepared, scratch, target, ready, placedScratch, placed, -⟩ :=
      save_eq_done_iff.mp saved
    obtain ⟨-, folders⟩ := ready.keeps distinct
    rw [← Directory.place_congr folders] at placedScratch placed
    refine ⟨⟨target, placed⟩, ⟨scratch, placedScratch⟩, fun needed => ?_⟩
    cases ready with
    | unchanged unneeded => cases needed.symm.trans unneeded
    | copied _ named done =>
        obtain ⟨_, place, -, placedCopy, -⟩ := Directory.copy_eq_ok_iff.mp done
        exact ⟨_, named, place, placedCopy⟩
  · intro writable
    obtain ⟨prepared, ready⟩ := writable.prepared
    obtain ⟨-, folders⟩ := ready.keeps distinct
    obtain ⟨⟨target, placed⟩, ⟨scratch, placedScratch⟩, -⟩ := writable
    rw [Directory.place_congr folders] at placedScratch placed
    exact ⟨_, save_eq_done_iff.mpr ⟨prepared, scratch, target, ready, placedScratch, placed, rfl⟩⟩

/-- A finished save leaves its text in the file. -/
theorem read_of_save (distinct : directory.Distinct)
    (finished : (save directory name collection backup).failure? = none) :
    ∃ content, (save directory name collection backup).directory.read name = .ok content ∧
      Holds name content collection.render := by
  have saved : save directory name collection backup = ⟨_, none⟩ := congrArg (Saved.mk _) finished
  have held := item_of_save distinct saved
  exact ⟨_, Directory.read_eq_ok_iff.mpr (Directory.item_eq_file_iff.mp held),
    holds_contentOf name collection.render⟩

end Graft.File
