/-
This file shows that each list of well-formed spans is read back from the text that is printed of
it, so that every place a path can address has a text.
-/

import Graft.Proofs.Path.Accept

namespace Graft.Path

/-- A printed key spells the key. -/
theorem spellsKey_escapeKey (name : List Char) : SpellsKey name (escapeKey name) := by
  induction name with
  | nil => exact .nil
  | cons character rest inductionHypothesis =>
      rw [escapeKey]
      split
      · exact .escaped character inductionHypothesis
      · rename_i unmarked
        exact .plain (by simpa using unmarked) inductionHypothesis

/-- A printed position is a run of digits with its value. -/
theorem encloses_toString {position : Nat} (small : position < Text.wordLimit) :
    Encloses (toString position).toList (.index position) ∧ ']' ∉ (toString position).toList := by
  have spelled : (toString position).toList = Nat.toDigits 10 position := Nat.toList_repr
  have decimal : ∀ digit ∈ Nat.toDigits 10 position, digit.isDigit = true := fun digit member =>
    Nat.isDigit_of_mem_toDigits (by decide) (by decide) member
  have value : Nat.ofDigitChars 10 (Nat.toDigits 10 position) 0 = position :=
    Nat.ofDigitChars_toDigits (by decide) (by decide)
  rw [spelled]
  constructor
  · have enclosed := Encloses.index Nat.toDigits_ne_nil decimal (by rwa [value])
    rwa [value] at enclosed
  · intro member
    exact absurd (decimal _ member) (by decide)

/-- A printed segment spells the segment. -/
theorem spellsSegment_print {segment : Segment} (wellFormed : WellFormedSegment segment) :
    SpellsSegment segment (printSegment segment) := by
  cases segment with
  | key name =>
      have given : name.toList ≠ [] := mt String.toList_eq_nil_iff.mp wellFormed
      have spelled := SpellsSegment.key given (spellsKey_escapeKey name.toList)
      rwa [String.ofList_toList] at spelled
  | index position =>
      obtain ⟨encloses, closed⟩ := encloses_toString wellFormed
      exact .bracket encloses closed
  | predicate key value =>
      obtain ⟨first, keyClosed, valueClosed⟩ := wellFormed
      have encloses := Encloses.predicate first value.toList
      rw [String.ofList_toList, String.ofList_toList] at encloses
      have closed : ']' ∉ key.toList ++ '=' :: value.toList := by simp [keyClosed, valueClosed]
      have spelled := SpellsSegment.bracket encloses closed
      simpa [printSegment] using spelled

/-- Printed segments with a point before each of them spell the rest of a span. -/
theorem spellsRest_print {rest : Span} (wellFormed : ∀ segment ∈ rest, WellFormedSegment segment) :
    SpellsRest rest (rest.flatMap fun segment => '.' :: printSegment segment) := by
  induction rest with
  | nil => exact .nil 0
  | cons segment rest inductionHypothesis =>
      obtain ⟨first, later⟩ := List.forall_mem_cons.mp wellFormed
      exact .cons 1 (fun _ _ => Nat.one_pos) (spellsSegment_print first)
        (inductionHypothesis later)

/-- A printed span spells the span. -/
theorem spellsSpan_print {span : Span} (given : span ≠ [])
    (wellFormed : ∀ segment ∈ span, WellFormedSegment segment) :
    SpellsSpan span (printSpan span) := by
  cases span with
  | nil => exact absurd rfl given
  | cons segment rest =>
      obtain ⟨first, later⟩ := List.forall_mem_cons.mp wellFormed
      have printed : printSpan (segment :: rest) =
          printSegment segment ++ rest.flatMap fun segment => '.' :: printSegment segment := by
        rw [printSpan]
        clear given wellFormed first later
        induction rest generalizing segment with
        | nil => simp [List.intercalate]
        | cons next rest inductionHypothesis =>
            rw [List.flatMap_cons, List.cons_append, ← inductionHypothesis]
            simp [List.intercalate]
      rw [printed]
      exact .cons 0 (spellsSegment_print first) (spellsRest_print later)

/-- A printed path spells its spans. -/
theorem spells_print {spans : List Span} (wellFormed : WellFormed spans) :
    Spells spans (print spans).toList := by
  obtain ⟨given, each⟩ := wellFormed
  refine ⟨given, spans.map printSpan, ?_, String.toList_ofList⟩
  rw [List.forall₂_map_right_iff, List.forall₂_same]
  exact fun span member => spellsSpan_print (each span member).1 (each span member).2

/-- The spans of each place that a path can address are read back from their printed text, and
spans that were read from any text are of that kind, so printing them and reading again gives the
same spans. -/
theorem parseSpans_print (spans : List Span) :
    (WellFormed spans → parseSpans (print spans) = .ok spans) ∧
      ∀ text, parseSpans text = .ok spans →
        WellFormed spans ∧ parseSpans (print spans) = .ok spans := by
  have readBack (wellFormed : WellFormed spans) : parseSpans (print spans) = .ok spans :=
    parseSpans_eq_ok_iff.mpr (spells_print wellFormed)
  refine ⟨readBack, fun text parsed => ?_⟩
  have wellFormed := (parseSpans_eq_ok_iff.mp parsed).wellFormed
  exact ⟨wellFormed, readBack wellFormed⟩

/-- Marks in keys are escaped next to every separator, and a text with points to spare is printed
without them. -/
theorem parseSpans_print_marks :
    let spans : List Span :=
      [[.key "a.b|c", .index 7, .predicate "x.y" "u=[|v", .key "]\\"], [.key "[="]]
    WellFormed spans ∧ print spans = "a\\.b\\|c.[7].[x.y=u=[|v].\\]\\\\|\\[=" ∧
      parseSpans (print spans) = .ok spans ∧
      parseSpans "..a[7].." = .ok [[.key "a", .index 7]] ∧
      WellFormed [[.key "a", .index 7]] ∧
      parseSpans (print [[.key "a", .index 7]]) = .ok [[.key "a", .index 7]] := by
  intro spans
  have wellFormed : WellFormed spans := by decide +kernel
  have printed : print spans = "a\\.b\\|c.[7].[x.y=u=[|v].\\]\\\\|\\[=" := by decide +kernel
  have parsed : parseSpans "..a[7].." = .ok [[.key "a", .index 7]] := by decide +kernel
  exact ⟨wellFormed, printed, (parseSpans_print spans).1 wellFormed, parsed,
    (parseSpans_print [[.key "a", .index 7]]).2 _ parsed⟩

end Graft.Path
