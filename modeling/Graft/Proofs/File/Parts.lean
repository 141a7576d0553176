/-
This file states which parts the names have that are put together from pieces: a copy lies in the
folder of the file it is made from, and the temporary name ends in its own suffix.
-/

import Graft.Proofs.File.Suffix
import Mathlib.Data.List.DropRight

namespace Graft.File

variable {name last : String} {front places : List String}

/-- A part that leads down: it has no slash and is none of the pieces with a meaning of their own. -/
structure LeadsDown (part : String) : Prop where
  given : isIdle part = false
  down : part ≠ ".."
  undivided : '/' ∉ part.toList

/-- The pieces of a name have no slash. -/
theorem undivided_of_mem_pieces {piece : String} (member : piece ∈ pieces name) :
    '/' ∉ piece.toList := by
  obtain ⟨characters, isPiece, rfl⟩ := List.mem_map.mp member
  rw [String.toList_ofList]
  exact Text.unmarked_of_mem_pieces isPiece

/-- Pieces without slashes are the pieces of the name that joins them. -/
theorem pieces_join (given : places ≠ []) (undivided : ∀ place ∈ places, '/' ∉ place.toList) :
    pieces (Text.join "/" places) = places := by
  have joined : (Text.join "/" places).toList = ['/'].intercalate (places.map String.toList) := by
    simp [Text.join, String.toList_intercalate]
  have unmarked : ∀ text ∈ places.map String.toList, '/' ∉ text := by
    intro text member
    obtain ⟨place, isPlace, rfl⟩ := List.mem_map.mp member
    exact undivided place isPlace
  unfold pieces Text.splitOn
  rw [joined, Text.pieces_intercalate (by simpa using given) unmarked]
  simp [Function.comp_def]

/-- Idle pieces stand for no step, wherever they are left out. -/
theorem filter_withoutIdleEnd (places : List String) :
    (withoutIdleEnd places).filter (!isIdle ·) = places.filter (!isIdle ·) := by
  change (places.rdropWhile isIdle).filter (!isIdle ·) = _
  have gone : (places.rtakeWhile isIdle).filter (!isIdle ·) = [] := by
    apply List.filter_eq_nil_iff.mpr
    intro place member
    simp [List.mem_rtakeWhile_imp member]
  conv_rhs => rw [← List.rdropWhile_append_rtakeWhile (p := isIdle) (l := places)]
  rw [List.filter_append, gone, List.append_nil]

/-- A piece that stands for a step is not left out. -/
theorem withoutIdleEnd_concat (given : isIdle last = false) :
    withoutIdleEnd (front ++ [last]) = front ++ [last] :=
  List.rdropWhile_concat_neg isIdle front last (by simp [given])

/-- The last piece that is left stands for a step. -/
theorem given_of_withoutIdleEnd (left : withoutIdleEnd places = front ++ [last]) :
    isIdle last = false := by
  have kept : places.rdropWhile isIdle ≠ [] := by
    change withoutIdleEnd places ≠ []
    rw [left]
    exact List.append_ne_nil_of_right_ne_nil _ (List.cons_ne_nil _ _)
  have ends := List.rdropWhile_last_not isIdle places kept
  change ¬ isIdle ((withoutIdleEnd places).getLast kept) = true at ends
  simp only [left, List.getLast_concat] at ends
  exact Bool.eq_false_iff.mpr ends

/-- The last part of a name stands behind the leading pieces. -/
theorem withoutIdleEnd_pieces (found : last? name = some last) :
    withoutIdleEnd (pieces name) = leading name ++ [last] := by
  obtain ⟨isLast, -⟩ := Option.filter_eq_some_iff.mp found
  unfold parts at isLast
  rw [← filter_withoutIdleEnd] at isLast
  unfold leading
  rcases List.eq_nil_or_concat' (withoutIdleEnd (pieces name)) with empty | ⟨front, piece, left⟩
  · rw [empty] at isLast
    cases isLast
  · have given := given_of_withoutIdleEnd left
    rw [left, List.filter_append, List.filter_cons_of_pos (by simp [given]), List.filter_nil,
      List.getLast?_concat] at isLast
    rw [left, List.dropLast_concat, Option.some.inj isLast]

/-- A last part leads down. -/
theorem leadsDown_of_last? (found : last? name = some last) : LeadsDown last := by
  have left := withoutIdleEnd_pieces found
  have member : last ∈ pieces name := by
    apply (List.rdropWhile_prefix isIdle _).subset
    change last ∈ withoutIdleEnd (pieces name)
    rw [left]
    exact List.mem_append_right _ List.mem_cons_self
  refine ⟨given_of_withoutIdleEnd left, ?_, undivided_of_mem_pieces member⟩
  simpa using (Option.filter_eq_some_iff.mp found).2

/-- The parts of a name are those of the leading pieces and the last one. -/
theorem parts_of_last? (found : last? name = some last) :
    parts name = (leading name).filter (!isIdle ·) ++ [last] := by
  have given := (leadsDown_of_last? found).given
  unfold parts
  rw [← filter_withoutIdleEnd, withoutIdleEnd_pieces found, List.filter_append,
    List.filter_cons_of_pos (by simp [given]), List.filter_nil]

/-- The leading pieces of a name have no slash. -/
theorem undivided_of_mem_leading {piece : String} (member : piece ∈ leading name) :
    '/' ∉ piece.toList :=
  undivided_of_mem_pieces
    ((List.rdropWhile_prefix isIdle _).subset (List.dropLast_subset _ member))

/-- A name that is joined from pieces and a part that leads down has these as its leading pieces and
its last part. -/
theorem last?_join (down : LeadsDown last) (undivided : ∀ place ∈ front, '/' ∉ place.toList) :
    last? (Text.join "/" (front ++ [last])) = some last ∧
      leading (Text.join "/" (front ++ [last])) = front := by
  have split : pieces (Text.join "/" (front ++ [last])) = front ++ [last] := by
    apply pieces_join (List.append_ne_nil_of_right_ne_nil _ (List.cons_ne_nil _ _))
    exact List.forall_mem_append.mpr ⟨undivided, List.forall_mem_singleton.mpr down.undivided⟩
  constructor
  · rw [last?_of_pieces split down.given]
    simp [Option.filter, down.down]
  · rw [leading, split, withoutIdleEnd_concat down.given, List.dropLast_concat]

/-- A name starts at the root when its first piece is empty. -/
theorem isAbsolute_iff_pieces (given : name ≠ "") :
    isAbsolute name = true ↔ (pieces name).head? = some "" := by
  have characters : name.toList ≠ [] := fun empty => given (String.toList_eq_nil_iff.mp empty)
  have first : (Text.pieces '/' name.toList).head? = some [] ↔ name.toList.head? = some '/' := by
    rw [Text.head?_pieces_eq_nil_iff, or_iff_right characters]
  rw [pieces, Text.splitOn, List.head?_map, isAbsolute, beq_iff_eq, ← first]
  simp [Option.map_eq_some_iff, ← String.toList_inj]

/-- A name with a last part starts at the root when its first leading piece is empty. -/
theorem isAbsolute_iff (found : last? name = some last) :
    isAbsolute name = true ↔ (leading name).head? = some "" := by
  obtain ⟨idle, whole⟩ := List.rdropWhile_prefix isIdle (pieces name)
  change withoutIdleEnd (pieces name) ++ idle = pieces name at whole
  have start : (pieces name).head? = (leading name ++ [last]).head? := by
    rw [← whole, withoutIdleEnd_pieces found, List.append_assoc, List.head?_append]
    cases leading name <;> rfl
  have nameGiven : name ≠ "" := by
    intro empty
    rw [empty] at found
    cases found
  have lastGiven : last ≠ "" := by
    intro empty
    cases empty ▸ (leadsDown_of_last? found).given
  rw [isAbsolute_iff_pieces nameGiven, start]
  cases leading name with
  | nil => simpa using lastGiven
  | cons piece rest => rfl

/-- The folder of a name has the first of its leading pieces. -/
theorem folder_starts (name : String) : folder name <+: leading name := by
  unfold folder
  split
  · exact List.take_prefix _ _
  · exact List.rdropWhile_prefix _ _

theorem head?_folder (name : String) : (folder name).head? = (leading name).head? := by
  obtain ⟨rest, whole⟩ := folder_starts name
  by_cases given : folder name = []
  · rw [given]
    unfold folder at given
    split at given
    · cases start : leading name with
      | nil => rfl
      | cons piece others => simp [start] at given
    · contradiction
  · rw [← whole, List.head?_append_of_ne_nil _ given]

/-- The parts of the folder of a name are those of the leading pieces. -/
theorem filter_folder (name : String) :
    (folder name).filter (!isIdle ·) = (leading name).filter (!isIdle ·) := by
  have kept := filter_withoutIdleEnd (leading name)
  unfold folder
  split
  · rename_i empty
    rw [empty] at kept
    have none := List.filter_eq_nil_iff.mp kept.symm
    rw [← kept]
    apply List.filter_eq_nil_iff.mpr
    intro place member
    exact none place (List.take_subset _ _ member)
  · exact kept

/-- A text that is longer than the pieces with a meaning of their own leads down. -/
theorem LeadsDown.of_append {stem suffix : String} (stemUndivided : '/' ∉ stem.toList)
    (suffixUndivided : '/' ∉ suffix.toList) (long : 2 < suffix.length) :
    LeadsDown (stem ++ suffix) := by
  have apart (text : String) (short : text.length ≤ 2) : stem ++ suffix ≠ text := by
    intro same
    have lengths := congrArg String.length same
    rw [String.length_append] at lengths
    omega
  refine ⟨?_, apart ".." (by decide), ?_⟩
  · rw [isIdle, Bool.or_eq_false_iff, beq_eq_false_iff_ne, Bool.eq_false_iff,
      Ne, String.isEmpty_iff]
    exact ⟨apart "" (by decide), apart "." (by decide)⟩
  · rw [String.toList_append, List.mem_append]
    exact not_or.mpr ⟨stemUndivided, suffixUndivided⟩

/-- A copy lies in the folder of the file, and starts where its name does. -/
theorem parts_of_backup? {copy : String} (named : backup? name = some copy) :
    ∃ last front, last? name = some last ∧ parts name = front ++ [last] ∧
      parts copy = front ++ [last ++ ".bak"] ∧ isAbsolute copy = isAbsolute name := by
  obtain ⟨last, found, rfl⟩ := Option.map_eq_some_iff.mp named
  have down : LeadsDown (last ++ ".bak") :=
    .of_append (leadsDown_of_last? found).undivided (by decide) (by decide)
  have undivided : ∀ place ∈ folder name, '/' ∉ place.toList := by
    intro place member
    exact undivided_of_mem_leading ((folder_starts name).subset member)
  obtain ⟨foundCopy, leadingCopy⟩ := last?_join down undivided
  refine ⟨last, _, found, parts_of_last? found, ?_, ?_⟩
  · rw [parts_of_last? foundCopy, leadingCopy, filter_folder]
  · rw [Bool.eq_iff_iff, isAbsolute_iff foundCopy, isAbsolute_iff found, leadingCopy, head?_folder]

/-- The last part of a text before a point has no slash that the whole has not. -/
theorem undivided_stem (undivided : '/' ∉ last.toList) : '/' ∉ (stem last).toList := by
  unfold stem
  cases cut : cutSuffix? last with
  | none => exact undivided
  | some parts =>
      obtain ⟨-, rfl, -⟩ := cutSuffix?_eq_some_iff.mp cut
      intro member
      apply undivided
      simpa using .inl member

theorem stem_ne_empty (given : last ≠ "") : stem last ≠ "" := by
  unfold stem
  cases cut : cutSuffix? last with
  | none => exact given
  | some parts => exact (cutSuffix?_eq_some_iff.mp cut).1

/-- The temporary name has the suffix `tmp`, unless it has no last part. -/
theorem last?_temporary (found : last? (temporary name) = some last) :
    ∃ stem, stem ≠ "" ∧ last = stem ++ ".tmp" := by
  unfold temporary temporaryOf at found
  split at found
  · rename_i old foundOld
    have downOld := leadsDown_of_last? foundOld
    have down : LeadsDown (stem old ++ ".tmp") :=
      .of_append (undivided_stem downOld.undivided) (by decide) (by decide)
    obtain ⟨foundNew, -⟩ := last?_join down (fun _ => undivided_of_mem_leading)
    have given : old ≠ "" := by
      rintro rfl
      cases downOld.given
    exact ⟨stem old, stem_ne_empty given, Option.some.inj (found.symm.trans foundNew)⟩
  · rename_i missing
    cases found.symm.trans missing

end Graft.File
