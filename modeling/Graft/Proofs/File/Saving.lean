/-
This file states what a save changes in a directory, whether it is finished or not, on every medium.
-/

import Graft.File.Save
import Graft.Proofs.Directory.Change

namespace Graft.File

variable {directory after : Directory} {name : String} {collection : Collection} {backup : Bool}

/-- The names of the files that a step changes. -/
def Step.targets : Step → List String
  | .copy _ target => [target]
  | .write name _ => [name]
  | .rename source target => [source, target]

/-- The names of the files that some steps change. -/
def targets (steps : List Step) : List String := steps.flatMap Step.targets

/-- A step changes nothing but its targets. -/
theorem Step.keeps {step : Step} (distinct : directory.Distinct)
    (performed : step.perform directory = .ok after) :
    Directory.Keeps (directory.places step.targets) directory after := by
  cases step with
  | copy source name =>
      obtain ⟨content, target, -, placed, rfl⟩ := Directory.copy_eq_ok_iff.mp performed
      rw [targets, Directory.places_cons placed]
      exact Directory.keeps_withFile distinct (Directory.at?_of_place placed) content
  | write name content =>
      obtain ⟨target, placed, rfl⟩ := Directory.write_eq_ok_iff.mp performed
      rw [targets, Directory.places_cons placed]
      exact Directory.keeps_withFile distinct (Directory.at?_of_place placed) content
  | rename source name =>
      obtain ⟨content, old, new, placed, held, placedNew, rfl⟩ :=
        Directory.rename_eq_ok_iff.mp performed
      rw [targets, Directory.places_cons placed, Directory.places_cons placedNew]
      exact Directory.keeps_moved distinct held (Directory.at?_of_place placedNew)

/-- A step on a medium changes nothing but its targets, even if it is stopped. -/
theorem Step.attempt_keeps (medium : Medium) (compressed : Bool) (step : Step)
    (distinct : directory.Distinct) :
    Directory.Keeps (directory.places step.targets) directory
      (step.attempt medium compressed directory).directory := by
  have untouched : Directory.Keeps (directory.places step.targets) directory directory :=
    (Directory.Keeps.refl distinct).mono (List.nil_subset _)
  rw [attempt]
  split
  · exact untouched
  · rename_i after performed
    split
    · exact Step.keeps distinct performed
    · cases step with
      | copy source target => exact Directory.keeps_leave distinct target _
      | write name content => exact Directory.keeps_leave distinct name _
      | rename source target => exact untouched

/-- A step on a medium succeeds when neither the directory nor the medium stops it. -/
theorem Step.attempt_eq_done_iff {medium : Medium} {compressed : Bool} {step : Step} :
    step.attempt medium compressed directory = ⟨after, none⟩ ↔
      step.perform directory = .ok after ∧ medium step = none := by
  rw [attempt]
  cases step.perform directory with
  | error fault => simp
  | ok reached => cases medium step <;> simp

/-- A run of steps changes nothing but their targets, even if it fails. -/
theorem performAll_keeps (medium : Medium) (compressed : Bool) (steps : List Step)
    (distinct : directory.Distinct) :
    Directory.Keeps (directory.places (targets steps)) directory
      (performAll medium compressed steps directory).directory := by
  induction steps generalizing directory with
  | nil => exact Directory.Keeps.refl distinct
  | cons step rest inductionHypothesis =>
      have first := Step.attempt_keeps medium compressed step distinct
      rw [targets, List.flatMap_cons, Directory.places_append, performAll]
      split
      · have later := inductionHypothesis first.distinct
        -- The names have the same places before and after the first step.
        rw [← Directory.places_congr first.folders] at later
        exact first.trans later
      · exact first.mono (List.subset_append_left _ _)

/-- A run goes on after a step that succeeds, and ends with one that fails. -/
theorem performAll_cons (medium : Medium) (compressed : Bool) (step : Step) (rest : List Step)
    (directory : Directory) :
    performAll medium compressed (step :: rest) directory =
      match step.attempt medium compressed directory with
      | ⟨middle, none⟩ => performAll medium compressed rest middle
      | ⟨middle, some failure⟩ => ⟨middle, some failure⟩ := by
  rw [performAll]
  rcases step.attempt medium compressed directory with ⟨middle, _ | failure⟩ <;> rfl

theorem performAll_singleton (medium : Medium) (compressed : Bool) (step : Step)
    (directory : Directory) :
    performAll medium compressed [step] directory = step.attempt medium compressed directory := by
  rw [performAll_cons]
  rcases step.attempt medium compressed directory with ⟨middle, _ | failure⟩ <;> rfl

/-- A run of steps is finished when neither the directory nor the medium stops one of them. -/
theorem performAll_eq_done_iff {medium : Medium} {compressed : Bool} {steps : List Step} :
    performAll medium compressed steps directory = ⟨after, none⟩ ↔
      steps.foldlM Step.perform directory = .ok after ∧ ∀ step ∈ steps, medium step = none := by
  induction steps generalizing directory with
  | nil => simp [performAll, pure, Except.pure]
  | cons step rest inductionHypothesis =>
      rw [performAll_cons, Step.attempt, List.foldlM_cons, List.forall_mem_cons]
      cases step.perform directory with
      | error fault => simp
      | ok middle =>
          cases medium step with
          | none => simpa using inductionHypothesis
          | some mishap => simp

/-- Whether a save copies the old file first. -/
def copies (directory : Directory) (name : String) (backup : Bool) : Bool :=
  backup && directory.contains name

/-- The names of the files that a save may change: the file, the one with the temporary name, and
the copy if one is made. -/
def saveTargets (directory : Directory) (name : String) (backup : Bool) : List String :=
  [name, temporary name] ++ if copies directory name backup then (backup? name).toList else []

/-- The steps that replace a file. -/
def replacement (name : String) (content : ByteArray) : List Step :=
  [.write (temporary name) content, .rename (temporary name) name]

/-- A save replaces the file, and copies it before that if it is asked to. -/
theorem saveSteps_eq_ok_iff {text : String} {copiesOld : Bool} {steps : List Step} :
    saveSteps name text copiesOld = .ok steps ↔
      copiesOld = false ∧ steps = replacement name (contentOf name text) ∨
        copiesOld = true ∧ ∃ copy, backup? name = some copy ∧
          steps = .copy name copy :: replacement name (contentOf name text) := by
  cases copiesOld with
  | false => simp [saveSteps, replacement, eq_comm]
  | true => cases named : backup? name <;> simp [saveSteps, replacement, named, eq_comm]

/-- A save without steps asks for the copy of a name without a last part. -/
theorem saveSteps_eq_error {text : String} {copiesOld : Bool} {failure : SaveFailure}
    (refused : saveSteps name text copiesOld = .error failure) : failure = .invalidName := by
  unfold saveSteps at refused
  split at refused
  · split at refused
    · cases refused
    · exact (Except.error.inj refused).symm
  · cases refused

/-- The steps of a save change its targets only. -/
theorem targets_saveSteps {text : String} {steps : List Step}
    (planned : saveSteps name text (copies directory name backup) = .ok steps) :
    targets steps ⊆ saveTargets directory name backup := by
  obtain ⟨unneeded, rfl⟩ | ⟨needed, copy, named, rfl⟩ := saveSteps_eq_ok_iff.mp planned
  · simp [saveTargets, unneeded, targets, replacement, Step.targets]
  · simp [saveTargets, needed, named, targets, replacement, Step.targets]

/-- A save changes nothing but its targets, even if it fails. -/
theorem saveOn_keeps (medium : Medium) (distinct : directory.Distinct) (name : String)
    (collection : Collection) (backup : Bool) :
    Directory.Keeps (directory.places (saveTargets directory name backup)) directory
      (saveOn medium directory name collection backup).directory := by
  rw [saveOn]
  split
  · rename_i steps planned
    exact (performAll_keeps medium _ steps distinct).mono
      (Directory.places_subset (targets_saveSteps planned))
  · exact (Directory.Keeps.refl distinct).mono (List.nil_subset _)

/-- A directory in which the file with a name may be replaced: the old file was copied, if that is
wanted and there was one. -/
inductive Prepared (directory : Directory) (name : String) (backup : Bool) : Directory → Prop where
  | unchanged (unneeded : copies directory name backup = false) :
      Prepared directory name backup directory
  | copied {copy : String} {prepared : Directory} (needed : copies directory name backup = true)
      (named : backup? name = some copy) (done : directory.copy name copy = .ok prepared) :
      Prepared directory name backup prepared

/-- Writing a file under its temporary name and renaming it moves it to its place. -/
theorem replace_eq_ok_iff {content : ByteArray} :
    (replacement name content).foldlM Step.perform directory = .ok after ↔
      ∃ scratch target, directory.place (temporary name) = .ok scratch ∧
        directory.place name = .ok target ∧
          after = (directory.withFile scratch content).moved scratch target content := by
  simp only [replacement, List.foldlM_cons, List.foldlM_nil, Step.perform, Result.bind_eq_ok]
  constructor
  · rintro ⟨written, wrote, renamed, moved, same⟩
    obtain rfl : renamed = after := Except.ok.inj same
    obtain ⟨scratch, placed, rfl⟩ := Directory.write_eq_ok_iff.mp wrote
    have folders := Directory.sameFolders_withFile (Directory.at?_of_place placed) content
    obtain ⟨found, old, target, placedOld, held, placedNew, rfl⟩ :=
      Directory.rename_eq_ok_iff.mp moved
    rw [← Directory.place_congr folders] at placedOld placedNew
    obtain rfl : scratch = old := Except.ok.inj (placed.symm.trans placedOld)
    rw [Directory.at?_withFile_same] at held
    cases held
    exact ⟨scratch, target, placed, placedNew, rfl⟩
  · rintro ⟨scratch, target, placed, placedNew, rfl⟩
    have folders := Directory.sameFolders_withFile (Directory.at?_of_place placed) content
    have wrote : directory.write (temporary name) content =
        .ok (directory.withFile scratch content) :=
      Directory.write_eq_ok_iff.mpr ⟨scratch, placed, rfl⟩
    have renamed : (directory.withFile scratch content).rename (temporary name) name =
        .ok ((directory.withFile scratch content).moved scratch target content) :=
      Directory.rename_eq_ok_iff.mpr ⟨content, scratch, target,
        (Directory.place_congr folders _).symm.trans placed, Directory.at?_withFile_same _ _ _,
        (Directory.place_congr folders _).symm.trans placedNew, rfl⟩
    exact ⟨_, wrote, _, renamed, rfl⟩

/-- A save is finished when it has steps and neither the directory nor the medium stops one of
them. -/
theorem saveOn_eq_done_iff {medium : Medium} :
    saveOn medium directory name collection backup = ⟨after, none⟩ ↔
      ∃ steps, saveSteps name collection.render (copies directory name backup) = .ok steps ∧
        steps.foldlM Step.perform directory = .ok after ∧ ∀ step ∈ steps, medium step = none := by
  rw [saveOn, ← copies]
  cases saveSteps name collection.render (copies directory name backup) with
  | error failure => simp
  | ok steps => simp [performAll_eq_done_iff]

/-- A save that is finished on a medium does what it does where nothing stops it. -/
theorem save_of_saveOn {medium : Medium}
    (saved : saveOn medium directory name collection backup = ⟨after, none⟩) :
    save directory name collection backup = ⟨after, none⟩ := by
  obtain ⟨steps, planned, done, -⟩ := saveOn_eq_done_iff.mp saved
  exact saveOn_eq_done_iff.mpr ⟨steps, planned, done, fun _ _ => rfl⟩

/-- A finished save prepares the directory and replaces the file. -/
theorem save_eq_done_iff :
    save directory name collection backup = ⟨after, none⟩ ↔
      ∃ prepared scratch target, Prepared directory name backup prepared ∧
        prepared.place (temporary name) = .ok scratch ∧ prepared.place name = .ok target ∧
          after = (prepared.withFile scratch (contentOf name collection.render)).moved scratch
            target (contentOf name collection.render) := by
  rw [save, saveOn_eq_done_iff]
  constructor
  · rintro ⟨steps, planned, done, -⟩
    obtain ⟨unneeded, rfl⟩ | ⟨needed, copy, named, rfl⟩ := saveSteps_eq_ok_iff.mp planned
    · obtain ⟨scratch, target, replaced⟩ := replace_eq_ok_iff.mp done
      exact ⟨directory, scratch, target, .unchanged unneeded, replaced⟩
    · rw [List.foldlM_cons] at done
      obtain ⟨prepared, copied, done⟩ := Result.bind_eq_ok.mp done
      obtain ⟨scratch, target, replaced⟩ := replace_eq_ok_iff.mp done
      exact ⟨prepared, scratch, target, .copied needed named copied, replaced⟩
  · rintro ⟨prepared, scratch, target, ready, replaced⟩
    have done := replace_eq_ok_iff.mpr ⟨scratch, target, replaced⟩
    cases ready with
    | unchanged unneeded =>
        exact ⟨_, saveSteps_eq_ok_iff.mpr (.inl ⟨unneeded, rfl⟩), done, fun _ _ => rfl⟩
    | copied needed named copied =>
        refine ⟨_, saveSteps_eq_ok_iff.mpr (.inr ⟨needed, _, named, rfl⟩), ?_, fun _ _ => rfl⟩
        rw [List.foldlM_cons]
        exact Result.bind_eq_ok.mpr ⟨prepared, copied, done⟩

/-- Preparing keeps the folders. -/
theorem Prepared.keeps {prepared : Directory} (distinct : directory.Distinct)
    (ready : Prepared directory name backup prepared) :
    prepared.Distinct ∧ Directory.SameFolders directory prepared := by
  cases ready with
  | unchanged => exact ⟨distinct, fun _ => .rfl⟩
  | @copied copy _ _ _ done =>
      have performed : (Step.copy name copy).perform directory = .ok prepared := done
      have kept := Step.keeps distinct performed
      exact ⟨kept.distinct, kept.folders⟩

/-- A finished save leaves a file with the content under its name. -/
theorem item_of_save (distinct : directory.Distinct)
    (saved : save directory name collection backup = ⟨after, none⟩) :
    after.item name = .ok (.file (contentOf name collection.render)) := by
  obtain ⟨prepared, scratch, target, ready, placedScratch, placed, rfl⟩ :=
    save_eq_done_iff.mp saved
  obtain ⟨distinctPrepared, -⟩ := ready.keeps distinct
  have replaced := Directory.keeps_replaced distinctPrepared (Directory.at?_of_place placedScratch)
    (Directory.at?_of_place placed) (contentOf name collection.render)
  have held := Directory.at?_withFile_same prepared scratch (contentOf name collection.render)
  rw [Directory.place_congr replaced.folders] at placed
  exact Directory.item_eq_file_iff.mpr ⟨target, placed, Directory.at?_moved_new held⟩

/-- The place of the copy that a save makes, if it makes one. -/
def copyPlace? (directory : Directory) (name : String) (backup : Bool) : Option String :=
  if copies directory name backup then
    (backup? name).bind fun copy => (directory.place copy).toOption
  else none

/-- A place that a save may change is that of the file, of the temporary name or of the copy. -/
theorem mem_places_saveTargets {place : String}
    (member : place ∈ directory.places (saveTargets directory name backup)) :
    directory.place name = .ok place ∨ directory.place (temporary name) = .ok place ∨
      copyPlace? directory name backup = some place := by
  obtain ⟨target, named, placed⟩ := Directory.mem_places.mp member
  simp only [saveTargets, List.mem_append, List.mem_cons, List.not_mem_nil, or_false] at named
  obtain (same | same) | made := named
  · exact .inl (same ▸ placed)
  · exact .inr (.inl (same ▸ placed))
  · refine .inr (.inr ?_)
    rw [copyPlace?]
    split at made
    · rename_i needed
      have copied : backup? name = some target := Option.mem_toList.mp made
      rw [if_pos needed, copied, Option.bind_some, placed]
      rfl
    · cases made

/-- After a finished save the place of the file holds the new content, and every other place what it
held before, but for the place of the copy if one is made and the place of the temporary name, where
nothing is left. -/
theorem save_frame (distinct : directory.Distinct)
    (saved : save directory name collection backup = ⟨after, none⟩) :
    ∃ target scratch, directory.place name = .ok target ∧
      directory.place (temporary name) = .ok scratch ∧
        after.at? target = some (.file (contentOf name collection.render)) ∧
          (∀ other, other ≠ target → other ≠ scratch →
            copyPlace? directory name backup ≠ some other →
              after.at? other = directory.at? other) ∧
            (scratch ≠ target → after.at? scratch = none) := by
  obtain ⟨prepared, scratch, target, ready, placedScratch, placed, moved⟩ :=
    save_eq_done_iff.mp saved
  obtain ⟨distinctPrepared, folders⟩ := ready.keeps distinct
  rw [← Directory.place_congr folders] at placedScratch placed
  refine ⟨target, scratch, placed, placedScratch, ?_, ?_, ?_⟩
  · rw [moved]
    exact Directory.at?_moved_new (Directory.at?_withFile_same _ _ _)
  · intro other apart apartScratch apartCopy
    have kept : Directory.Keeps _ directory (save directory name collection backup).directory :=
      saveOn_keeps .sound distinct name collection backup
    rw [saved] at kept
    refine kept.others other fun member => ?_
    obtain found | found | found := mem_places_saveTargets member
    · exact apart (Except.ok.inj (found.symm.trans placed))
    · exact apartScratch (Except.ok.inj (found.symm.trans placedScratch))
    · exact apartCopy found
  · intro apart
    rw [moved]
    exact Directory.at?_moved_old (distinctPrepared.withFile _ _) apart

/-- A save with a copy in a directory with a third file leaves that file as it was. -/
theorem save_frame_notes :
    let old : ByteArray := "kind: B\n".toUTF8
    let notes : ByteArray := "notes".toUTF8
    let directory : Directory := ⟨[("notes", .file notes), ("out.yaml", .file old)]⟩
    let collection : Collection := ⟨[⟨.mapping [("kind", .text "A")]⟩], .stream⟩
    directory.Distinct ∧ ∃ after, save directory "out.yaml" collection true = ⟨after, none⟩ ∧
      after.at? "notes" = some (.file notes) ∧ after.at? "out.tmp" = none := by
  intro old notes directory collection
  have distinct : directory.Distinct := by decide +kernel
  have finished : (save directory "out.yaml" collection true).failure? = none := by decide +kernel
  have saved : save directory "out.yaml" collection true =
      ⟨(save directory "out.yaml" collection true).directory, none⟩ :=
    congrArg (Saved.mk _) finished
  obtain ⟨target, scratch, placed, placedScratch, -, others, gone⟩ := save_frame distinct saved
  obtain rfl : "out.yaml" = target := by
    have known : directory.place "out.yaml" = .ok "out.yaml" := by decide +kernel
    exact Except.ok.inj (known.symm.trans placed)
  obtain rfl : "out.tmp" = scratch := by
    have known : directory.place (temporary "out.yaml") = .ok "out.tmp" := by decide +kernel
    exact Except.ok.inj (known.symm.trans placedScratch)
  refine ⟨distinct, _, saved, ?_, gone (by decide)⟩
  rw [others "notes" (by decide) (by decide) (by decide +kernel)]
  rfl

/-- A save loses a neighbour that has the temporary name. -/
theorem save_neighbour :
    let neighbour : Item := .file "other".toUTF8
    let directory : Directory := ⟨[("out.tmp", neighbour)]⟩
    let collection : Collection := ⟨[⟨.mapping [("kind", .text "A")]⟩], .stream⟩
    let saved := save directory "out.yaml" collection false
    saved.failure? = none ∧ directory.place "out.yaml" = .ok "out.yaml" ∧
      directory.at? "out.tmp" = some neighbour ∧
        ¬∀ other, other ≠ "out.yaml" → saved.directory.at? other = directory.at? other := by
  intro neighbour directory collection saved
  have lost : saved.directory.at? "out.tmp" ≠ directory.at? "out.tmp" := by decide +kernel
  exact ⟨by decide +kernel, by decide +kernel, rfl, fun kept => lost (kept "out.tmp" (by decide))⟩

end Graft.File
