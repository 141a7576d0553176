/-
This file states what a save that fails has done to a directory, whatever the medium does. It has made
a copy at most and written under the temporary name, where something may be left.
-/

import Graft.Proofs.File.Places
import Graft.Proofs.File.Saving

namespace Graft.File

variable {directory after : Directory} {name : String} {content : ByteArray}
  {collection : Collection} {backup compressed : Bool} {medium : Medium} {failure : SaveFailure}

/-- A step that fails changes nothing if the directory refuses it, and is stopped by the medium
otherwise. -/
theorem Step.attempt_eq_failed {step : Step}
    (tried : step.attempt medium compressed directory = ⟨after, some failure⟩) :
    (∃ stage fault, failure = step.failure compressed stage fault) ∧
      (after = directory ∨
        ∃ performed left?, step.perform directory = .ok performed ∧
          after = step.stop directory left?) := by
  rw [attempt] at tried
  cases performed : step.perform directory with
  | error fault =>
      rw [performed] at tried
      cases tried
      exact ⟨⟨_, _, rfl⟩, .inl rfl⟩
  | ok reached =>
      rw [performed] at tried
      cases stopped : medium step with
      | none =>
          rw [stopped] at tried
          cases tried
      | some mishap =>
          rw [stopped] at tried
          cases tried
          exact ⟨⟨_, _, rfl⟩, .inr ⟨reached, _, rfl, rfl⟩⟩

/-- A write that fails leaves what the medium tells. -/
theorem Step.attempt_write_eq_failed
    (tried : (Step.write name content).attempt medium compressed directory =
      ⟨after, some failure⟩) :
    after = directory.leave name ((medium (.write name content)).bind Mishap.left?) := by
  rw [attempt, perform] at tried
  cases placed : directory.place name with
  | error fault =>
      have refused : directory.write name content = .error fault := by
        rw [Directory.write, placed]
        rfl
      rw [refused] at tried
      cases tried
      obtain same | ⟨target, left, found, -⟩ := directory.leave_cases name
        ((medium (.write name content)).bind Mishap.left?)
      · exact same.symm
      · cases placed.symm.trans found
  | ok target =>
      rw [Directory.write_eq_ok_iff.mpr ⟨target, placed, rfl⟩] at tried
      cases stopped : medium (.write name content) with
      | none =>
          rw [stopped] at tried
          cases tried
      | some mishap =>
          rw [stopped] at tried
          cases tried
          rfl

/-- What a save that fails has written under the temporary name: nothing before the write, what is
left of a write that was stopped, and the whole content if only the rename failed. -/
def leftover? (medium : Medium) (name : String) (content : ByteArray) :
    SaveFailure → Option ByteArray
  | .invalidName => none
  | .backup _ => none
  | .rename _ => some content
  | .create _ => (medium (.write (temporary name) content)).bind Mishap.left?
  | .compress _ => (medium (.write (temporary name) content)).bind Mishap.left?
  | .finish _ => (medium (.write (temporary name) content)).bind Mishap.left?
  | .write _ => (medium (.write (temporary name) content)).bind Mishap.left?

theorem leftover?_write (medium : Medium) (name : String) (content : ByteArray) (compressed : Bool)
    (stage : Stage) (fault : SystemFault) :
    leftover? medium name content
        ((Step.write (temporary name) content).failure compressed stage fault) =
      (medium (.write (temporary name) content)).bind Mishap.left? := by
  cases compressed <;> cases stage <;> rfl

/-- A replacement that fails leaves behind what was written under the temporary name. -/
theorem replacement_failed
    (failed : performAll medium compressed (replacement name content) directory =
      ⟨after, some failure⟩) :
    after = directory.leave (temporary name) (leftover? medium name content failure) := by
  rw [replacement, performAll_cons] at failed
  rcases tried : (Step.write (temporary name) content).attempt medium compressed directory with
    ⟨written, _ | stopped⟩
  · rw [tried] at failed
    obtain ⟨wrote, -⟩ := Step.attempt_eq_done_iff.mp tried
    obtain ⟨scratch, placed, rfl⟩ := Directory.write_eq_ok_iff.mp wrote
    simp only [performAll_singleton] at failed
    obtain ⟨⟨stage, fault, rfl⟩, kept⟩ := Step.attempt_eq_failed failed
    -- A rename that fails changes nothing, so the whole content is left.
    have same : after = directory.withFile scratch content := by
      obtain same | ⟨_, _, -, same⟩ := kept <;> exact same
    rw [same, Step.failure, leftover?, Directory.leave_of_place placed]
  · rw [tried] at failed
    cases failed
    obtain ⟨⟨stage, fault, rfl⟩, -⟩ := Step.attempt_eq_failed tried
    rw [leftover?_write]
    exact Step.attempt_write_eq_failed tried

/-- A directory in which nothing is changed, but for the copy of a file. That may be written in
part. -/
inductive Aside (directory : Directory) (name : String) : Directory → Prop where
  | untouched : Aside directory name directory
  | copied {target : String} (placed : directory.place name = .ok target)
      (free : directory.at? (target ++ ".bak") ≠ some .folder) (content : ByteArray) :
      Aside directory name (directory.withFile (target ++ ".bak") content)

/-- A copy that the directory allows writes aside of the file. -/
theorem aside_of_copy {copy : String} {performed : Directory} (named : backup? name = some copy)
    (done : directory.copy name copy = .ok performed) :
    Aside directory name performed ∧ ∀ left?, Aside directory name (directory.leave copy left?) := by
  obtain ⟨old, copyTarget, read, placedCopy, rfl⟩ := Directory.copy_eq_ok_iff.mp done
  obtain ⟨target, placed, -⟩ := Directory.read_eq_ok_iff.mp read
  obtain rfl := place_backup? named placed placedCopy
  have free := Directory.at?_of_place placedCopy
  refine ⟨.copied placed free old, fun left? => ?_⟩
  rcases directory.leave_cases copy left? with same | ⟨found, left, placedFound, same⟩
  · rw [same]
    exact .untouched
  · obtain rfl := place_backup? named placed placedFound
    rw [same]
    exact .copied placed free left

/-- Writing aside of a file touches no folder, and neither the file nor the one with the temporary
name. -/
theorem Aside.keeps {prepared : Directory} (aside : Aside directory name prepared) :
    Directory.SameFolders directory prepared ∧
      (∀ target, directory.spot? name = some target →
        prepared.at? target = directory.at? target) ∧
      ∀ scratch, directory.place (temporary name) = .ok scratch →
        prepared.at? scratch = directory.at? scratch := by
  cases aside with
  | untouched => exact ⟨fun _ => .rfl, fun _ _ => rfl, fun _ _ => rfl⟩
  | @copied place placed free content =>
      refine ⟨Directory.sameFolders_withFile free content, ?_, ?_⟩
      · intro target found
        obtain rfl : place = target :=
          Option.some.inj ((Directory.spot?_of_place placed).symm.trans found)
        exact Directory.at?_withFile_other (copy_apart place "").1.symm _ _
      · intro scratch placedScratch
        obtain ⟨stem, rfl⟩ := place_temporary placedScratch
        exact Directory.at?_withFile_other (copy_apart place stem).2.symm _ _

/-- A save that fails leaves behind a copy of the file and what was written under the temporary
name. -/
theorem saveOn_failed
    (failed : saveOn medium directory name collection backup = ⟨after, some failure⟩) :
    ∃ prepared, Aside directory name prepared ∧
      after = prepared.leave (temporary name)
        (leftover? medium name (contentOf name collection.render) failure) := by
  rw [saveOn, ← copies] at failed
  cases planned : saveSteps name collection.render (copies directory name backup) with
  | error refusal =>
      rw [planned] at failed
      cases failed
      rw [saveSteps_eq_error planned]
      exact ⟨directory, .untouched, rfl⟩
  | ok steps =>
      rw [planned] at failed
      obtain ⟨-, rfl⟩ | ⟨-, copy, named, rfl⟩ := saveSteps_eq_ok_iff.mp planned
      · exact ⟨directory, .untouched, replacement_failed failed⟩
      · simp only [performAll_cons] at failed
        rcases tried : (Step.copy name copy).attempt medium (writesCompressed name) directory with
          ⟨prepared, _ | stopped⟩
        · rw [tried] at failed
          obtain ⟨done, -⟩ := Step.attempt_eq_done_iff.mp tried
          exact ⟨prepared, (aside_of_copy named done).1, replacement_failed failed⟩
        · rw [tried] at failed
          cases failed
          obtain ⟨⟨stage, fault, rfl⟩, kept⟩ := Step.attempt_eq_failed tried
          refine ⟨_, ?_, rfl⟩
          obtain rfl | ⟨performed, left?, done, rfl⟩ := kept
          · exact .untouched
          · exact (aside_of_copy named done).2 left?

/-- A save that fails makes and removes no folder, leaves what it has written at the place of the
temporary name, and spares the file if that has another place. -/
theorem at?_of_failed
    (failed : saveOn medium directory name collection backup = ⟨after, some failure⟩) :
    Directory.SameFolders directory after ∧
      (∀ target, directory.spot? name = some target →
        directory.place (temporary name) ≠ .ok target →
          after.at? target = directory.at? target) ∧
      ∀ scratch, directory.place (temporary name) = .ok scratch →
        after.at? scratch =
          ((leftover? medium name (contentOf name collection.render) failure).map Item.file).or
            (directory.at? scratch) := by
  obtain ⟨prepared, aside, rfl⟩ := saveOn_failed failed
  obtain ⟨folders, spared, free⟩ := aside.keeps
  have placed := Directory.place_congr folders (temporary name)
  refine ⟨?_, ?_, ?_⟩
  · intro place
    exact (folders place).trans (Directory.sameFolders_leave _ _ _ place)
  · intro target found apart
    rw [← spared target found]
    obtain same | ⟨scratch, rest, placedScratch, same⟩ := prepared.leave_cases (temporary name)
      (leftover? medium name (contentOf name collection.render) failure)
    · rw [same]
    · rw [same]
      apply Directory.at?_withFile_other
      rintro rfl
      exact apart (placed.trans placedScratch)
  · intro scratch placedScratch
    rw [← free scratch placedScratch]
    cases leftover? medium name (contentOf name collection.render) failure with
    | none => rfl
    | some rest =>
        rw [Directory.leave_of_place (placed.symm.trans placedScratch), Directory.at?_withFile_same]
        rfl

/-- A save that fails spares a file without the suffix `tmp`. -/
theorem item?_of_failed
    (failed : saveOn medium directory name collection backup = ⟨after, some failure⟩)
    (apart : suffix? name ≠ some "tmp") : after.item? name = directory.item? name := by
  obtain ⟨folders, spared, -⟩ := at?_of_failed failed
  symm
  apply Directory.item?_congr folders
  intro target placed
  have found := Directory.spot?_of_place placed
  symm
  apply spared target found
  intro shared
  exact apart (suffix?_of_temporary found shared)

end Graft.File
