/-
This file states what a save leaves in a directory, whatever the medium does. A finished save holds the
text and, in the copy, the old file. A save that fails spares the old file unless it is written over,
which happens to a file that has the temporary name.
-/

import Graft.Proofs.File.Stopped
import Graft.Proofs.File.Writable

namespace Graft.File

variable {directory after : Directory} {name : String} {collection : Collection} {backup : Bool}

/-- A finished save that copies the old file leaves its content at the place of the copy. -/
theorem copy_of_save (distinct : directory.Distinct)
    (needed : copies directory name backup = true)
    (saved : save directory name collection backup = ⟨after, none⟩) :
    ∃ old target, directory.read name = .ok old ∧ directory.place name = .ok target ∧
      after.at? (target ++ ".bak") = some (.file old) := by
  obtain ⟨prepared, scratch, target, ready, placedScratch, placed, rfl⟩ :=
    save_eq_done_iff.mp saved
  obtain ⟨distinctPrepared, folders⟩ := ready.keeps distinct
  have replaced := Directory.keeps_replaced distinctPrepared (Directory.at?_of_place placedScratch)
    (Directory.at?_of_place placed) (contentOf name collection.render)
  rw [← Directory.place_congr folders] at placed
  cases ready with
  | unchanged unneeded => cases needed.symm.trans unneeded
  | copied _ named done =>
      obtain ⟨old, copyTarget, read, placedCopy, rfl⟩ := Directory.copy_eq_ok_iff.mp done
      obtain rfl := place_backup? named placed placedCopy
      obtain ⟨stem, rfl⟩ := place_temporary placedScratch
      obtain ⟨apart, apartScratch⟩ := copy_apart target stem
      refine ⟨old, target, read, placed, ?_⟩
      rw [replaced.others _ (by simp [apart, apartScratch]), Directory.at?_withFile_same]

/-- On every medium, a finished save leaves the text under the name and the old file in the copy, if
it is copied. A save that fails spares the file unless its temporary name leads to its own place, which
takes the suffix `tmp`. At the place of the temporary name is what it has written until then. -/
theorem saveOn_outcome (medium : Medium) (distinct : directory.Distinct) (name : String)
    (collection : Collection) (backup : Bool) :
    let saved := saveOn medium directory name collection backup
    (saved.failure? = none →
      (∃ content, saved.directory.read name = .ok content ∧
        Holds name content collection.render) ∧
      (backup = true → directory.contains name = true →
        ∃ old target, directory.read name = .ok old ∧ directory.place name = .ok target ∧
          saved.directory.at? (target ++ ".bak") = some (.file old))) ∧
    ∀ failure, saved.failure? = some failure →
      (suffix? name ≠ some "tmp" → saved.directory.item? name = directory.item? name) ∧
      Directory.SameFolders directory saved.directory ∧
      (∀ target, directory.spot? name = some target →
        directory.place (temporary name) ≠ .ok target →
          saved.directory.at? target = directory.at? target) ∧
      ∀ scratch, directory.place (temporary name) = .ok scratch →
        saved.directory.at? scratch =
          ((leftover? medium name (contentOf name collection.render) failure).map Item.file).or
            (directory.at? scratch) := by
  intro saved
  constructor
  · intro finished
    have same : save directory name collection backup = ⟨saved.directory, none⟩ :=
      save_of_saveOn (congrArg (Saved.mk _) finished)
    have read := read_of_save distinct (congrArg Saved.failure? same)
    rw [same] at read
    refine ⟨read, ?_⟩
    intro wanted there
    have needed : copies directory name backup = true := Bool.and_eq_true_iff.mpr ⟨wanted, there⟩
    exact copy_of_save distinct needed same
  · intro failure failed
    have stopped : saveOn medium directory name collection backup =
        ⟨saved.directory, some failure⟩ := congrArg (Saved.mk _) failed
    exact ⟨item?_of_failed stopped, at?_of_failed stopped⟩

/-- A medium without space left. A file is opened, and so emptied, but nothing is written to it. -/
def Medium.full : Medium
  | .copy _ _ => some (.writing .full .empty)
  | .write _ _ => some (.writing .full .empty)
  | .rename _ _ => none

/-- A save to a file that has its own temporary name is finished on a sound medium. On a full one the
save to a file with another suffix fails, spares the file and leaves an empty one beside it. -/
theorem saveOn_outcome_full :
    let old : ByteArray := "kind: B\n".toUTF8
    let plain : Directory := ⟨[("out.tmp", .file old)]⟩
    let other : Directory := ⟨[("out.yaml", .file old)]⟩
    let collection : Collection := ⟨[⟨.mapping [("kind", .text "A")]⟩], .stream⟩
    let finished := saveOn .sound plain "out.tmp" collection true
    let failed := saveOn .full other "out.yaml" collection false
    (∃ content, finished.directory.read "out.tmp" = .ok content ∧
      Holds "out.tmp" content collection.render) ∧
      finished.directory.at? "out.tmp.bak" = some (.file old) ∧
      failed.failure? = some (.write .full) ∧
      failed.directory.item? "out.yaml" = some (.file old) ∧
      failed.directory.at? "out.tmp" = some (.file .empty) := by
  intro old plain other collection finished failed
  have distinct : plain.Distinct := by decide +kernel
  have done : finished.failure? = none := by decide +kernel
  obtain ⟨held, copied⟩ := (saveOn_outcome .sound distinct "out.tmp" collection true).1 done
  obtain ⟨found, target, read, placed, copy⟩ := copied rfl (by decide +kernel)
  obtain rfl : old = found := by
    have known : plain.read "out.tmp" = .ok old := by decide +kernel
    exact Except.ok.inj (known.symm.trans read)
  obtain rfl : "out.tmp" = target := by
    have known : plain.place "out.tmp" = .ok "out.tmp" := by decide +kernel
    exact Except.ok.inj (known.symm.trans placed)
  have distinctOther : other.Distinct := by decide +kernel
  have stopped : failed.failure? = some (.write .full) := by decide +kernel
  obtain ⟨spared, -, -, left⟩ :=
    (saveOn_outcome .full distinctOther "out.yaml" collection false).2 _ stopped
  refine ⟨held, copy, stopped, ?_, left "out.tmp" (by decide +kernel)⟩
  rw [spared (by decide +kernel)]
  decide +kernel

/-- A file with the suffix `tmp` has its own temporary name, so a save writes over it. The old file is
lost when the write is stopped. It is also lost when only the rename is refused, as it is for a name
with a slash at its end. -/
theorem saveOn_inPlace :
    let old : Item := .file "kind: B\n".toUTF8
    let directory : Directory := ⟨[("out.tmp", old)]⟩
    let collection : Collection := ⟨[⟨.mapping [("kind", .text "A")]⟩], .stream⟩
    let stopped := saveOn .full directory "out.tmp" collection false
    let refused := saveOn .sound directory "out.tmp/" collection true
    directory.spot? "out.tmp" = some "out.tmp" ∧ directory.spot? "out.tmp/" = some "out.tmp" ∧
      stopped.failure? = some (.write .full) ∧
      refused.failure? = some (.rename .notADirectory) ∧
      stopped.directory.at? "out.tmp" = some (.file .empty) ∧
      refused.directory.at? "out.tmp" = some (.file collection.render.toUTF8) ∧
      (¬∀ failure, stopped.failure? = some failure →
        stopped.directory.at? "out.tmp" = directory.at? "out.tmp") ∧
      ¬∀ failure, refused.failure? = some failure →
        refused.directory.at? "out.tmp" = directory.at? "out.tmp" := by
  intro old directory collection stopped refused
  have failed : stopped.failure? = some (.write .full) := by decide +kernel
  have failedRename : refused.failure? = some (.rename .notADirectory) := by decide +kernel
  have lost : stopped.directory.at? "out.tmp" ≠ directory.at? "out.tmp" := by decide +kernel
  have lostRename : refused.directory.at? "out.tmp" ≠ directory.at? "out.tmp" := by decide +kernel
  refine ⟨by decide +kernel, by decide +kernel, failed, failedRename, by decide +kernel,
    by decide +kernel, fun spared => lost (spared _ failed), fun spared => ?_⟩
  exact lostRename (spared _ failedRename)

end Graft.File
