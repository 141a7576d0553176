/-
This file states which place a file has in its folder. The last part of a name that has a place does
not lead up, and is the last part of the place.
-/

import Graft.Proofs.Directory.Place
import Mathlib.Data.List.Basic

namespace Graft.Directory

variable {directory : Directory} {name target : String} {absolute : Bool} {place : List String}

/-- The places above a place are folders. -/
def Grounded (directory : Directory) (absolute : Bool) (place : List String) : Prop :=
  ∀ above, above <+: place.dropLast → directory.isFolder absolute above = true

theorem grounded_nil (directory : Directory) (absolute : Bool) :
    directory.Grounded absolute [] := by
  intro above inside
  obtain rfl : above = [] := List.prefix_nil.mp inside
  rfl

/-- A step goes down to a part or up. -/
theorem step_cases (absolute : Bool) (place : List String) (part : String) :
    step absolute place part = place ++ [part] ∨ step absolute place part = place.dropLast := by
  unfold step
  split
  · exact .inl rfl
  · split
    · exact .inl rfl
    · exact .inr rfl

/-- The places above remain folders on a step from a folder. -/
theorem Grounded.step (grounded : directory.Grounded absolute place)
    (folder : directory.isFolder absolute place = true) (part : String) :
    directory.Grounded absolute (Directory.step absolute place part) := by
  intro above inside
  rcases step_cases absolute place part with down | up
  · rw [down, List.dropLast_concat] at inside
    rcases List.eq_nil_or_concat' place with empty | ⟨front, last, split⟩
    · rw [empty, List.prefix_nil] at inside
      rw [inside]
      rfl
    · rw [split, List.prefix_concat_iff, ← split] at inside
      rcases inside with same | shorter
      · rw [same]
        exact folder
      · apply grounded
        rw [split, List.dropLast_concat]
        exact shorter
  · rw [up] at inside
    exact grounded above (inside.trans (List.dropLast_prefix _))

/-- The places above remain folders on every way. -/
theorem Grounded.walk? {reached parts : List String} (grounded : directory.Grounded absolute place)
    (walked : directory.walk? absolute place parts = some reached) :
    directory.Grounded absolute reached := by
  induction parts generalizing place with
  | nil =>
      cases walked
      exact grounded
  | cons part rest inductionHypothesis =>
      rw [Directory.walk?] at walked
      split at walked
      · rename_i folder
        exact inductionHypothesis (grounded.step folder part) walked
      · cases walked

/-- A step up from a folder leads to a folder. -/
theorem isFolder_up (grounded : directory.Grounded absolute place) :
    directory.isFolder absolute (Directory.step absolute place "..") = true := by
  unfold Directory.step
  split
  · contradiction
  · split
    · rename_i above
      have stillAbove : isAbove (place ++ [".."]) = true := by
        simpa [isAbove] using above.1
      rw [isFolder, stillAbove, Bool.true_or]
    · exact grounded _ (List.prefix_refl _)

/-- A way of two parts leads from where the first leads to. -/
theorem walk?_append (directory : Directory) (absolute : Bool) (place front back : List String) :
    directory.walk? absolute place (front ++ back) =
      (directory.walk? absolute place front).bind fun middle =>
        directory.walk? absolute middle back := by
  induction front generalizing place with
  | nil => rfl
  | cons part rest inductionHypothesis =>
      rw [List.cons_append, walk?, walk?, inductionHypothesis]
      split <;> rfl

/-- A name leads to where its parts do. -/
theorem walk?_of_resolve {parts : List String} (resolved : directory.resolve name = .ok parts) :
    directory.walk? (File.isAbsolute name) [] (File.parts name) = some parts := by
  unfold resolve at resolved
  split at resolved
  · cases resolved
  · split at resolved
    · cases resolved
    · split at resolved
      · rename_i walked
        cases resolved
        exact walked
      · cases resolved

/-- A name that leads to no folder leads to its last part in the folder that the parts before it lead
to. -/
theorem last_of_resolve {parts : List String} (resolved : directory.resolve name = .ok parts)
    (free : directory.isFolder (File.isAbsolute name) parts = false) :
    ∃ front last folder, File.last? name = some last ∧ File.parts name = front ++ [last] ∧
      directory.walk? (File.isAbsolute name) [] front = some folder ∧ folder ++ [last] = parts := by
  have walked := walk?_of_resolve resolved
  rcases List.eq_nil_or_concat' (File.parts name) with empty | ⟨front, last, split⟩
  · rw [empty] at walked
    cases walked
    cases free
  · rw [split, walk?_append, Option.bind_eq_some_iff] at walked
    obtain ⟨folder, walkedFront, walkedLast⟩ := walked
    have grounded := (grounded_nil directory (File.isAbsolute name)).walk? walkedFront
    unfold walk? at walkedLast
    split at walkedLast
    · cases walkedLast
      have down : last ≠ ".." := by
        intro up
        rw [up, isFolder_up grounded] at free
        cases free
      refine ⟨front, last, folder, ?_, split, walkedFront, ?_⟩
      · rw [File.last?, split, List.getLast?_concat]
        simpa [Option.filter] using down
      · rw [step, if_pos down]
    · cases walkedLast

/-- The place of a name is its last part in the folder that the parts before it lead to. -/
theorem last_of_place (placed : directory.place name = .ok target) :
    ∃ front last folder, File.last? name = some last ∧ File.parts name = front ++ [last] ∧
      directory.walk? (File.isAbsolute name) [] front = some folder ∧
        fullName (File.isAbsolute name) (folder ++ [last]) = target := by
  obtain ⟨reached, resolved, -, free, rfl⟩ := place_eq_ok_iff.mp placed
  obtain ⟨front, last, folder, found, split, walked, same⟩ := last_of_resolve resolved free
  exact ⟨front, last, folder, found, split, walked, congrArg (fullName _) same⟩

/-- A text at the end of the last part is at the end of the full name. -/
theorem fullName_append (absolute : Bool) (front : List String) (last ending : String) :
    fullName absolute (front ++ [last ++ ending]) =
      fullName absolute (front ++ [last]) ++ ending := by
  unfold fullName Text.join
  cases front with
  | nil => simp [String.append_assoc]
  | cons part rest =>
      rw [String.intercalate_append_of_ne_nil (List.cons_ne_nil _ _) (List.cons_ne_nil _ _),
        String.intercalate_append_of_ne_nil (List.cons_ne_nil _ _) (List.cons_ne_nil _ _)]
      simp [String.append_assoc]

/-- A full name is its last part, or ends in a slash and that part. -/
theorem toList_fullName (absolute : Bool) (front : List String) (last : String) :
    (fullName absolute (front ++ [last])).toList = last.toList ∨
      ∃ before, (fullName absolute (front ++ [last])).toList = before ++ '/' :: last.toList := by
  unfold fullName Text.join
  cases front with
  | nil =>
      cases absolute with
      | false => left; simp
      | true => exact .inr ⟨[], by simp⟩
  | cons part rest =>
      right
      rw [String.intercalate_append_of_ne_nil (List.cons_ne_nil _ _) (List.cons_ne_nil _ _)]
      refine ⟨((if absolute then "/" else "") ++ "/".intercalate (part :: rest)).toList, ?_⟩
      simp

end Graft.Directory
