/-
This file states where the copy of a file and its temporary name lead. The temporary name leads to the
file itself only if that has the suffix `tmp`.
-/

import Graft.Proofs.Directory.Last
import Graft.Proofs.File.Parts

namespace Graft.File

variable {directory : Directory} {name target : String}

/-- A copy has `.bak` behind the place of the file. -/
theorem place_backup? {copy copyTarget : String} (named : backup? name = some copy)
    (placed : directory.place name = .ok target)
    (placedCopy : directory.place copy = .ok copyTarget) : copyTarget = target ++ ".bak" := by
  obtain ⟨last, front, -, split, splitCopy, root⟩ := parts_of_backup? named
  obtain ⟨before, part, folder, -, splitPlace, walked, rfl⟩ := Directory.last_of_place placed
  obtain ⟨rfl, lastSame⟩ := List.append_inj' (split.symm.trans splitPlace) rfl
  obtain rfl := List.singleton_inj.mp lastSame
  obtain ⟨before, part, folderCopy, -, splitPlace, walkedCopy, rfl⟩ :=
    Directory.last_of_place placedCopy
  obtain ⟨rfl, lastSame⟩ := List.append_inj' (splitCopy.symm.trans splitPlace) rfl
  obtain rfl := List.singleton_inj.mp lastSame
  rw [root] at walkedCopy ⊢
  obtain rfl : folder = folderCopy := Option.some.inj (walked.symm.trans walkedCopy)
  exact Directory.fullName_append _ _ _ _

/-- The place of the temporary name ends in its suffix. -/
theorem place_temporary (placed : directory.place (temporary name) = .ok target) :
    ∃ stem, target = stem ++ ".tmp" := by
  obtain ⟨-, last, folder, found, -, -, rfl⟩ := Directory.last_of_place placed
  obtain ⟨stem, -, rfl⟩ := last?_temporary found
  exact ⟨_, Directory.fullName_append _ _ _ _⟩

/-- Neither the file nor the one with the temporary name is at the place of the copy. -/
theorem copy_apart (target stem : String) :
    target ++ ".bak" ≠ target ∧ target ++ ".bak" ≠ stem ++ ".tmp" := by
  constructor
  · intro same
    have lengths := congrArg String.length same
    rw [String.length_append] at lengths
    have longer : ".bak".length = 4 := rfl
    omega
  · intro same
    have texts := congrArg String.toList same
    rw [String.toList_append, String.toList_append] at texts
    exact absurd (List.append_inj_right' texts rfl) (by decide)

/-- A text without slashes at the end of a full name is at the end of its last part. -/
theorem last_of_isSuffix {absolute : Bool} {parts : List String} {text : List Char}
    (given : text ≠ []) (undivided : '/' ∉ text)
    (ends : text <:+ (Directory.fullName absolute parts).toList) :
    ∃ front last, parts = front ++ [last] ∧ text <:+ last.toList := by
  rcases List.eq_nil_or_concat' parts with rfl | ⟨front, last, rfl⟩
  · have root : ∀ character ∈ (Directory.fullName absolute []).toList, character = '/' := by
      cases absolute <;> simp [Directory.fullName, Text.join]
    obtain ⟨first, rest, rfl⟩ := List.exists_cons_of_ne_nil given
    have slash := root first (ends.subset List.mem_cons_self)
    exact absurd (slash ▸ List.mem_cons_self) undivided
  · refine ⟨front, last, rfl, ?_⟩
    rcases Directory.toList_fullName absolute front last with same | ⟨before, same⟩
    · rwa [same] at ends
    · rw [same] at ends
      exact isSuffix_piece undivided ends

/-- A full name ends in its last part. -/
theorem isSuffix_fullName (absolute : Bool) (front : List String) (last : String) :
    last.toList <:+ (Directory.fullName absolute (front ++ [last])).toList := by
  rcases Directory.toList_fullName absolute front last with same | ⟨before, same⟩
  · exact same ▸ List.suffix_rfl
  · rw [same]
    exact (List.suffix_cons _ _).trans (List.suffix_append _ _)

/-- A name whose temporary name leads to its own place has the suffix `tmp`. -/
theorem suffix?_of_temporary (found : directory.spot? name = some target)
    (placed : directory.place (temporary name) = .ok target) : suffix? name = some "tmp" := by
  obtain ⟨parts, resolved, same⟩ := Directory.spot?_eq_some_iff.mp found
  obtain ⟨-, scratch, folder, foundScratch, -, -, rfl⟩ := Directory.last_of_place placed
  have undivided := (leadsDown_of_last? foundScratch).undivided
  obtain ⟨stem, given, rfl⟩ := last?_temporary foundScratch
  have ends := isSuffix_fullName (isAbsolute (temporary name)) folder (stem ++ ".tmp")
  rw [← same] at ends
  obtain ⟨front, last, rfl, ⟨before, whole⟩⟩ := last_of_isSuffix (by simp) undivided ends
  have split : last = String.ofList before ++ stem ++ ".tmp" := by
    rw [← String.toList_inj, ← whole]
    simp
  -- The place is no folder, since the temporary name has it, so the last part of the name leads there.
  have down : last ≠ ".." := by
    intro up
    have lengths := congrArg String.length (split.symm.trans up)
    rw [String.length_append] at lengths
    have longer : ".tmp".length = 4 := rfl
    have shorter : "..".length = 2 := rfl
    omega
  have free : directory.isFolder (isAbsolute name) (front ++ [last]) = false := by
    rw [Directory.isFolder, Bool.or_eq_false_iff, beq_eq_false_iff_ne]
    refine ⟨by simp [Directory.isAbove, down], ?_⟩
    rw [same]
    exact Directory.at?_of_place placed
  obtain ⟨_, part, _, foundLast, -, -, reached⟩ := Directory.last_of_resolve resolved free
  obtain rfl : part = last := List.singleton_inj.mp (List.append_inj' reached rfl).2
  refine (suffix?_eq_some_iff (by decide)).mpr ⟨String.ofList before ++ stem, ?_, ?_⟩
  · simp [given]
  · rw [foundLast, split]
    rfl

end Graft.File
