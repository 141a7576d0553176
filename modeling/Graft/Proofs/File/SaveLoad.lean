/-
This file shows that a collection which was saved is loaded again, under every name but one.
-/

import Graft.File.Load
import Graft.Proofs.Collection.ReadBack
import Graft.Proofs.File.Saving
import Graft.Proofs.File.Suffix
import Graft.Proofs.Gzip.Stored

namespace Graft.File

variable {directory after : Directory} {name text : String} {collection : Collection}
  {backup : Bool}

/-- A text is read from its bytes. -/
theorem textOf_toUTF8 (text : String) : textOf text.toUTF8 = .ok text := by
  have valid : text.toUTF8.IsValidUTF8 := text.isValidUTF8
  rw [textOf, String.fromUTF8?, dif_pos valid]
  rfl

/-- A compressed text is read once it is expanded. -/
theorem expand_compress (text : String) : expand (Gzip.compress text.toUTF8) = .ok text := by
  rw [expand, Gzip.decompress?_compress]
  exact textOf_toUTF8 text

/-- A compressed text is not read without that. -/
theorem textOf_compress (text : String) :
    textOf (Gzip.compress text.toUTF8) = .error .notText := by
  rw [textOf, String.fromUTF8?, dif_neg (Gzip.not_isValidUTF8_compress _)]

/-- The text of a file is taken from its content. -/
theorem readText_of_item {content : ByteArray} (held : directory.item name = .ok (.file content)) :
    readText directory name =
      if readsCompressed name then (expand content).mapError .corrupt
      else (textOf content).mapError (.unreadable name) := by
  have read : directory.read name = .ok content :=
    Directory.read_eq_ok_iff.mpr (Directory.item_eq_file_iff.mp held)
  rw [readText, held, read]
  rfl

/-- A name under which a file was saved does not ask for a folder. -/
theorem endsInFolder_of_save (distinct : directory.Distinct)
    (saved : save directory name collection backup = ⟨after, none⟩) :
    Directory.endsInFolder name = false := by
  obtain ⟨_, placed, -⟩ := Directory.item_eq_file_iff.mp (item_of_save distinct saved)
  obtain ⟨_, -, isFile, -⟩ := Directory.place_eq_ok_iff.mp placed
  exact isFile

/-- The text that was saved is read again, unless the name is `.gz`. -/
theorem readText_of_save (distinct : directory.Distinct)
    (saved : save directory name collection backup = ⟨after, none⟩) :
    readText after name =
      if last? name = some ".gz" then .error (.unreadable name .notText)
      else .ok collection.render := by
  have isFile := endsInFolder_of_save distinct saved
  rw [readText_of_item (item_of_save distinct saved), contentOf]
  by_cases bare : last? name = some ".gz"
  · have writes := (writesCompressed_iff_reads isFile).mpr (.inr bare)
    rw [if_pos bare, if_pos writes, readsCompressed_of_last bare, textOf_compress]
    rfl
  · rw [if_neg bare, (writesCompressed_eq_iff isFile).mpr bare]
    by_cases reads : readsCompressed name = true
    · rw [if_pos reads, if_pos reads, expand_compress]
      rfl
    · rw [if_neg reads, if_neg reads, textOf_toUTF8]
      rfl

/-- A parsed collection that was saved is loaded with the same resources, the same rules and the
same kind of format, if its text is read back as the values that were written. The name `.gz` is
the exception, the only one that is compressed when it is written and not when it is read: what was
saved under it is never loaded. -/
theorem load_save (distinct : directory.Distinct) (parsed : Collection.parse text = .ok collection)
    (readBack : Yaml.ReadBack collection.documents)
    (saved : save directory name collection backup = ⟨after, none⟩) :
    (writesCompressed name = readsCompressed name ↔ last? name ≠ some ".gz") ∧
      (last? name ≠ some ".gz" → ∃ reread, load after name = .ok reread ∧
        reread.resources = collection.resources ∧
          reread.functionConfig? = collection.functionConfig? ∧
            Format.Rewritten collection.roots collection.format reread.format) ∧
        (last? name = some ".gz" → load after name = .error (.unreadable name .notText)) := by
  have read := readText_of_save distinct saved
  refine ⟨writesCompressed_eq_iff (endsInFolder_of_save distinct saved), ?_, ?_⟩
  · intro given
    obtain ⟨coherent, present⟩ := Collection.coherent_of_parse parsed
    have again := Collection.parse_of_readBack coherent present readBack
    refine ⟨⟨collection.resources, collection.rewritten⟩, ?_, rfl,
      Collection.functionConfig?_rewritten collection collection.resources,
      Collection.rewritten_spec collection⟩
    rw [load, read, if_neg given, Result.ok_bind, again]
    rfl
  · intro bare
    rw [load, read, if_pos bare]
    rfl

/-- A hidden file with a compressed name is loaded as it was saved. -/
theorem load_save_hidden :
    let text := "kind: A\n---\nkind: B\n"
    let collection : Collection :=
      ⟨[⟨.mapping [("kind", .text "A")]⟩, ⟨.mapping [("kind", .text "B")]⟩], .stream⟩
    Directory.empty.Distinct ∧ Collection.parse text = .ok collection ∧
      Yaml.ReadBack collection.documents ∧
        ∃ after, save Directory.empty ".hidden.gz" collection true = ⟨after, none⟩ ∧
          ∃ reread, load after ".hidden.gz" = .ok reread ∧
            reread.resources = collection.resources := by
  intro text collection
  have distinct : Directory.empty.Distinct := by decide +kernel
  have parsed : Collection.parse text = .ok collection := by decide +kernel
  have readBack : Yaml.ReadBack collection.documents := by decide +kernel
  have finished : (save Directory.empty ".hidden.gz" collection true).failure? = none := by
    decide +kernel
  have saved : save Directory.empty ".hidden.gz" collection true =
      ⟨(save Directory.empty ".hidden.gz" collection true).directory, none⟩ :=
    congrArg (Saved.mk _) finished
  obtain ⟨-, loaded, -⟩ := load_save distinct parsed readBack saved
  obtain ⟨reread, again, same, -⟩ := loaded (by decide +kernel)
  exact ⟨distinct, parsed, readBack, _, saved, reread, again, same⟩

/-- What was saved under the name `.gz` alone cannot be loaded. -/
theorem load_save_bare :
    let collection : Collection := ⟨[⟨.mapping [("kind", .text "A")]⟩], .stream⟩
    let saved := save Directory.empty ".gz" collection false
    Collection.parse "kind: A\n" = .ok collection ∧ saved.failure? = none ∧
      writesCompressed ".gz" = true ∧ readsCompressed ".gz" = false ∧
        ¬∃ reread, load saved.directory ".gz" = .ok reread := by
  intro collection saved
  have failed : load saved.directory ".gz" = .error (.unreadable ".gz" .notText) := by
    decide +kernel
  refine ⟨by decide +kernel, by decide +kernel, by decide +kernel, by decide +kernel, ?_⟩
  rintro ⟨reread, loaded⟩
  cases failed.symm.trans loaded

end Graft.File
