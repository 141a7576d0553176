/-
This file states which places the names of files have in a directory. Only the folders decide it.
-/

import Graft.Directory
import Graft.Proofs.Result

namespace Graft.Directory

variable {directory first second : Directory} {name target : String} {content : ByteArray}

/-- The item at a place. -/
def at? (directory : Directory) (place : String) : Option Item :=
  Entries.find? place directory.items

/-- Two directories have the same folders. -/
def SameFolders (first second : Directory) : Prop :=
  ∀ place, first.at? place = some .folder ↔ second.at? place = some .folder

/-- Whether a place is a folder depends on the folders only. -/
theorem isFolder_congr (same : SameFolders first second) (absolute : Bool) (parts : List String) :
    first.isFolder absolute parts = second.isFolder absolute parts := by
  have decided := same (fullName absolute parts)
  rw [isFolder, isFolder]
  congr 1
  rw [Bool.eq_iff_iff, beq_iff_eq, beq_iff_eq]
  exact decided

/-- Where a way leads depends on the folders only. -/
theorem walk?_congr (same : SameFolders first second) (absolute : Bool)
    (place parts : List String) :
    first.walk? absolute place parts = second.walk? absolute place parts := by
  induction parts generalizing place with
  | nil => rfl
  | cons part rest inductionHypothesis =>
      rw [walk?, walk?, isFolder_congr same, inductionHypothesis]

/-- Where a name leads depends on the folders only. -/
theorem resolve_congr (same : SameFolders first second) (name : String) :
    first.resolve name = second.resolve name := by
  rw [resolve, resolve, walk?_congr same]

/-- The item at the parts that a name leads to. -/
theorem item_of_resolve {parts : List String} (resolved : directory.resolve name = .ok parts) :
    directory.item name =
      if directory.isFolder (File.isAbsolute name) parts then .ok .folder
      else match directory.at? (fullName (File.isAbsolute name) parts) with
        | some (.file content) =>
            if endsInFolder name then .error .notADirectory else .ok (.file content)
        | _ => .error .notFound := by
  rw [item, resolved, Result.ok_bind, isFolder, at?]
  by_cases above : isAbove parts = true
  · simp only [above, if_true, Bool.true_or]
  · simp only [above, Bool.false_or, if_false, Bool.false_eq_true]
    cases Entries.find? (fullName (File.isAbsolute name) parts) directory.items with
    | none => rfl
    | some found => cases found <;> simp

/-- A name has the place that it leads to, unless it asks for a folder or leads to one. -/
theorem place_eq (directory : Directory) (name : String) :
    directory.place name = directory.resolve name >>= fun parts =>
      if endsInFolder name then .error .notADirectory
      else if directory.isFolder (File.isAbsolute name) parts then .error .notAFile
      else .ok (fullName (File.isAbsolute name) parts) := by
  rw [place]
  cases resolved : directory.resolve name with
  | error fault => rfl
  | ok parts =>
      rw [Result.ok_bind, Result.ok_bind, item_of_resolve resolved]
      by_cases ends : endsInFolder name = true
      · rw [if_pos ends, if_pos ends]
      · rw [if_neg ends, if_neg ends]
        by_cases folder : directory.isFolder (File.isAbsolute name) parts = true
        · rw [if_pos folder, if_pos folder]
          rfl
        · rw [if_neg folder, if_neg folder, if_neg]
          cases directory.at? (fullName (File.isAbsolute name) parts) with
          | none => nofun
          | some found => cases found <;> simp [ends, Except.toOption]

theorem place_eq_ok_iff :
    directory.place name = .ok target ↔ ∃ parts, directory.resolve name = .ok parts ∧
      endsInFolder name = false ∧ directory.isFolder (File.isAbsolute name) parts = false ∧
        fullName (File.isAbsolute name) parts = target := by
  rw [place_eq, Result.bind_eq_ok]
  refine exists_congr fun parts => and_congr_right fun _ => ?_
  by_cases ends : endsInFolder name = true
  · simp [ends]
  · by_cases folder : directory.isFolder (File.isAbsolute name) parts = true <;>
      simp [ends, folder]

/-- The place of a name depends on the folders only. -/
theorem place_congr (same : SameFolders first second) (name : String) :
    first.place name = second.place name := by
  rw [place_eq, place_eq, resolve_congr same]
  simp only [isFolder_congr same]

/-- The place of a name is no folder. -/
theorem at?_of_place (placed : directory.place name = .ok target) :
    directory.at? target ≠ some .folder := by
  obtain ⟨parts, -, -, free, rfl⟩ := place_eq_ok_iff.mp placed
  intro folder
  rw [isFolder, Bool.or_eq_false_iff, beq_eq_false_iff_ne] at free
  exact free.2 folder

/-- A name with a place leads to the file there, or to nothing. -/
theorem item_of_place (placed : directory.place name = .ok target) :
    directory.item name = match directory.at? target with
      | some (.file content) => .ok (.file content)
      | _ => .error .notFound := by
  obtain ⟨parts, resolved, ends, free, rfl⟩ := place_eq_ok_iff.mp placed
  rw [item_of_resolve resolved, free, ends]
  rfl

/-- A name leads to a file when there is one at its place. -/
theorem item_eq_file_iff :
    directory.item name = .ok (.file content) ↔
      ∃ target, directory.place name = .ok target ∧
        directory.at? target = some (.file content) := by
  constructor
  · intro found
    obtain ⟨parts, resolved, -⟩ := Result.bind_eq_ok.mp found
    rw [item_of_resolve resolved] at found
    split at found
    · cases found
    · rename_i free
      split at found
      · rename_i stored held
        split at found
        · cases found
        · rename_i ends
          cases found
          exact ⟨_, place_eq_ok_iff.mpr ⟨parts, resolved, Bool.eq_false_iff.mpr ends,
            Bool.eq_false_iff.mpr free, rfl⟩, held⟩
      · cases found
  · rintro ⟨target, placed, held⟩
    rw [item_of_place placed, held]

/-- The places of some names. -/
def places (directory : Directory) (names : List String) : List String :=
  names.filterMap fun name => (directory.place name).toOption

theorem places_cons (placed : directory.place name = .ok target) (names : List String) :
    directory.places (name :: names) = target :: directory.places names := by
  rw [places, List.filterMap_cons, placed]
  rfl

theorem mem_places {names : List String} {place : String} :
    place ∈ directory.places names ↔ ∃ name ∈ names, directory.place name = .ok place := by
  rw [places, List.mem_filterMap]
  refine exists_congr fun name => and_congr_right fun _ => ?_
  cases directory.place name <;> simp [Except.toOption]

theorem places_subset {fewer names : List String} (inside : fewer ⊆ names) :
    directory.places fewer ⊆ directory.places names := by
  intro place member
  obtain ⟨name, named, placed⟩ := mem_places.mp member
  exact mem_places.mpr ⟨name, inside named, placed⟩

theorem places_append (directory : Directory) (front back : List String) :
    directory.places (front ++ back) = directory.places front ++ directory.places back :=
  List.filterMap_append

/-- The places of names depend on the folders only. -/
theorem places_congr (same : SameFolders first second) (names : List String) :
    first.places names = second.places names := by
  rw [places, places]
  congr 1
  funext name
  rw [place_congr same]

/-- The place that the parts of a name lead to. A name that asks for a folder leads there too. -/
def spot? (directory : Directory) (name : String) : Option String :=
  (directory.resolve name).toOption.map (fullName (File.isAbsolute name))

theorem spot?_eq_some_iff :
    directory.spot? name = some target ↔
      ∃ parts, directory.resolve name = .ok parts ∧
        fullName (File.isAbsolute name) parts = target := by
  rw [spot?]
  cases directory.resolve name <;> simp [Except.toOption]

theorem spot?_of_place (placed : directory.place name = .ok target) :
    directory.spot? name = some target := by
  obtain ⟨parts, resolved, -, -, same⟩ := place_eq_ok_iff.mp placed
  exact spot?_eq_some_iff.mpr ⟨parts, resolved, same⟩

/-- What a name leads to, if it leads to anything. -/
def item? (directory : Directory) (name : String) : Option Item := (directory.item name).toOption

/-- A name leads to a folder, or to what is at its place unless it asks for a folder. -/
theorem item?_eq (directory : Directory) (name : String) :
    directory.item? name = (directory.resolve name).toOption.bind fun parts =>
      if directory.isFolder (File.isAbsolute name) parts then some .folder
      else if endsInFolder name then none
      else directory.at? (fullName (File.isAbsolute name) parts) := by
  rw [item?]
  cases resolved : directory.resolve name with
  | error fault =>
      rw [item, resolved]
      rfl
  | ok parts =>
      simp only [item_of_resolve resolved, Except.toOption, Option.bind_some]
      by_cases folder : directory.isFolder (File.isAbsolute name) parts = true
      · rw [if_pos folder, if_pos folder]
      · rw [if_neg folder, if_neg folder]
        cases held : directory.at? (fullName (File.isAbsolute name) parts) with
        | none => simp
        | some found =>
            cases found with
            | folder =>
                rw [isFolder, ← at?, held] at folder
                simp at folder
            | file content => cases endsInFolder name <;> rfl

/-- Where the folders are the same, a name leads to the same if its place holds the same. -/
theorem item?_congr (same : SameFolders first second)
    (held : ∀ target, first.place name = .ok target → first.at? target = second.at? target) :
    first.item? name = second.item? name := by
  rw [item?_eq, item?_eq, ← resolve_congr same]
  cases resolved : first.resolve name with
  | error fault => rfl
  | ok parts =>
      simp only [Except.toOption, Option.bind_some, ← isFolder_congr same]
      by_cases folder : first.isFolder (File.isAbsolute name) parts = true
      · rw [if_pos folder, if_pos folder]
      · rw [if_neg folder, if_neg folder]
        by_cases ends : endsInFolder name = true
        · rw [if_pos ends, if_pos ends]
        · rw [if_neg ends, if_neg ends]
          apply held
          exact place_eq_ok_iff.mpr ⟨parts, resolved, Bool.eq_false_iff.mpr ends,
            Bool.eq_false_iff.mpr folder, rfl⟩

end Graft.Directory
