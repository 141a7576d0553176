/-
This file compares the names of files that are compressed when they are written with those of files
that are compressed when they are read. They differ in the name `.gz` alone.
-/

import Graft.Directory
import Graft.Proofs.Text

namespace Graft.File

variable {name : String}

/-- The text before and after the last point of a name, unless the name starts with it. -/
theorem cutSuffix?_eq_some_iff {last stem suffix : String} :
    cutSuffix? last = some (stem, suffix) ↔
      stem ≠ "" ∧ last = stem ++ "." ++ suffix ∧ '.' ∉ suffix.toList := by
  have whole : last = stem ++ "." ++ suffix ↔
      last.toList.reverse = suffix.toList.reverse ++ '.' :: stem.toList.reverse := by
    rw [← String.toList_inj, ← List.reverse_inj]
    simp
  have given : stem ≠ "" ↔ stem.toList.reverse ≠ [] := by
    rw [← String.toList_inj.ne]
    simp
  rw [whole, given, and_comm, ← List.mem_reverse, ← Text.cut?_eq_some_iff, cutSuffix?]
  cases Text.cut? '.' last.toList.reverse with
  | none => simp
  | some parts =>
      obtain ⟨after, before⟩ := parts
      cases before with
      | nil => simp
      | cons first rest =>
          simp only [Option.some.injEq, Prod.mk.injEq, ← String.toList_inj, String.toList_ofList,
            List.reverse_eq_iff]
          constructor
          · rintro ⟨same, rfl⟩
            exact ⟨⟨rfl, same⟩, by rw [← same]; nofun⟩
          · rintro ⟨⟨rfl, same⟩, -⟩
            exact ⟨same, rfl⟩

/-- The suffix of a name follows the last point of its last part, which has something before that. -/
theorem suffix?_eq_some_iff {suffix : String} (unpointed : '.' ∉ suffix.toList) :
    suffix? name = some suffix ↔
      ∃ stem, stem ≠ "" ∧ last? name = some (stem ++ ("." ++ suffix)) := by
  rw [suffix?, Option.map_eq_some_iff]
  constructor
  · rintro ⟨⟨stem, suffix⟩, cut, rfl⟩
    obtain ⟨last, found, cut⟩ := Option.bind_eq_some_iff.mp cut
    obtain ⟨given, rfl, -⟩ := cutSuffix?_eq_some_iff.mp cut
    exact ⟨stem, given, by rw [found, String.append_assoc]⟩
  · rintro ⟨stem, given, found⟩
    refine ⟨(stem, suffix), Option.bind_eq_some_iff.mpr ⟨_, found, ?_⟩, rfl⟩
    exact cutSuffix?_eq_some_iff.mpr ⟨given, by rw [String.append_assoc], unpointed⟩

/-- A name is that of a compressed file for a reader if its last part ends in `.gz` and has
something before that. -/
theorem readsCompressed_iff :
    readsCompressed name = true ↔ ∃ stem, stem ≠ "" ∧ last? name = some (stem ++ ".gz") := by
  rw [readsCompressed, beq_iff_eq]
  exact suffix?_eq_some_iff (by decide)

/-- The last piece of a name has no slash, and follows the last one if there is any. -/
theorem last_piece (name : String) :
    ∃ earlier piece, pieces name = earlier ++ [piece] ∧ '/' ∉ piece.toList ∧
      (earlier = [] ∧ name = piece ∨ ∃ front, name.toList = front ++ '/' :: piece.toList) := by
  obtain ⟨earlier, piece, split, absent, place⟩ := Text.pieces_last '/' name.toList
  refine ⟨earlier.map String.ofList, String.ofList piece, ?_, ?_, ?_⟩
  · rw [pieces, Text.splitOn, split, List.map_append]
    rfl
  · rwa [String.toList_ofList]
  · obtain ⟨rfl, same⟩ | ⟨-, front, same⟩ := place
    · exact .inl ⟨rfl, by rw [← same, String.ofList_toList]⟩
    · exact .inr ⟨front, by rw [same, String.toList_ofList]⟩

/-- The last piece is the last part, unless it stands for no step. -/
theorem last?_of_pieces {earlier : List String} {piece : String}
    (split : pieces name = earlier ++ [piece]) (given : isIdle piece = false) :
    last? name = (some piece).filter (· != "..") := by
  rw [last?, parts, split, List.filter_append]
  simp [given]

/-- A text without slashes ends a name if it ends the last piece. -/
theorem isSuffix_piece {front piece text : List Char} (absent : '/' ∉ text)
    (ends : text <:+ front ++ '/' :: piece) : text <:+ piece := by
  have pieceEnds : '/' :: piece <:+ front ++ '/' :: piece := List.suffix_append _ _
  obtain inside | around := List.suffix_or_suffix_of_suffix ends pieceEnds
  · obtain rfl | inside := List.suffix_cons_iff.mp inside
    · exact absurd List.mem_cons_self absent
    · exact inside
  · exact absurd (around.subset List.mem_cons_self) absent

theorem length_ending (stem : String) : ".gz".length ≤ (stem ++ ".gz").length := by
  rw [String.length_append]
  exact Nat.le_add_left _ _

theorem isSuffix_iff {text : String} :
    ".gz".toList <:+ text.toList ↔ ∃ stem, text = stem ++ ".gz" := by
  constructor
  · rintro ⟨front, same⟩
    exact ⟨String.ofList front, by rw [← String.toList_inj, ← same]; simp⟩
  · rintro ⟨stem, rfl⟩
    exact ⟨stem.toList, by simp⟩

/-- A name is that of a compressed file for a writer if its last part ends in `.gz`, unless it
leads to a folder. -/
theorem writesCompressed_iff (isFile : Directory.endsInFolder name = false) :
    writesCompressed name = true ↔ ∃ stem, last? name = some (stem ++ ".gz") := by
  obtain ⟨earlier, piece, split, absent, place⟩ := last_piece name
  have pieceEnds : writesCompressed name = true ↔ ∃ stem, piece = stem ++ ".gz" := by
    rw [← isSuffix_iff, writesCompressed, List.isSuffixOf_iff_suffix]
    obtain ⟨-, rfl⟩ | ⟨front, whole⟩ := place
    · rfl
    · rw [whole]
      exact ⟨isSuffix_piece (by decide), fun inside =>
        inside.trans ((List.suffix_cons _ _).trans (List.suffix_append _ _))⟩
  rw [pieceEnds]
  cases idle : isIdle piece with
  | true =>
      have short : piece = "" ∨ piece = "." := by simpa [isIdle] using idle
      -- A name that ends in such a piece is that piece alone, or leads to a folder.
      have noLast : last? name = none := by
        obtain ⟨rfl, rfl⟩ | ⟨front, whole⟩ := place
        · simp [last?, parts, split, idle]
        · rw [Directory.endsInFolder, whole, List.reverse_append] at isFile
          obtain rfl | rfl := short <;> simp at isFile
      rw [noLast]
      constructor
      · rintro ⟨stem, same⟩
        have long := length_ending stem
        rw [← same] at long
        obtain rfl | rfl := short <;> exact absurd long (by decide)
      · nofun
  | false =>
      rw [last?_of_pieces split idle]
      refine exists_congr fun stem => ?_
      rw [Option.filter_eq_some_iff, Option.some.injEq, iff_self_and]
      rintro rfl
      have long := length_ending stem
      have apart : stem ++ ".gz" ≠ ".." := fun same => by
        rw [same] at long
        exact absurd long (by decide)
      simpa using apart

/-- The writer compresses one name more than the reader, which is `.gz`. -/
theorem writesCompressed_iff_reads (isFile : Directory.endsInFolder name = false) :
    writesCompressed name = true ↔ readsCompressed name = true ∨ last? name = some ".gz" := by
  rw [writesCompressed_iff isFile, readsCompressed_iff]
  constructor
  · rintro ⟨stem, found⟩
    by_cases given : stem = ""
    · exact .inr (by rw [found, given, String.empty_append])
    · exact .inl ⟨stem, given, found⟩
  · rintro (⟨stem, -, found⟩ | found)
    · exact ⟨stem, found⟩
    · exact ⟨"", by rw [found, String.empty_append]⟩

/-- The reader takes the name `.gz` for that of a plain file. -/
theorem readsCompressed_of_last (bare : last? name = some ".gz") :
    readsCompressed name = false := by
  rw [readsCompressed, suffix?, bare]
  decide

/-- The writer and the reader agree on every name but `.gz`. -/
theorem writesCompressed_eq_iff (isFile : Directory.endsInFolder name = false) :
    writesCompressed name = readsCompressed name ↔ last? name ≠ some ".gz" := by
  rw [Bool.eq_iff_iff, writesCompressed_iff_reads isFile]
  constructor
  · intro agree bare
    have plain := readsCompressed_of_last bare
    rw [agree.mp (.inr bare)] at plain
    cases plain
  · exact fun given => or_iff_left given

end Graft.File
