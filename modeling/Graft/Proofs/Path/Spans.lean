/-
This file shows that a path read from text has a span, and that each of its spans has a segment.
-/

import Graft.Proofs.Path.Accept

namespace Graft.Path

/-- The spans of a path that was read are those that its text spells. -/
theorem spells_of_parse {text : String} {path : Path} (parsed : parse text = .ok path) :
    Spells path.spans text.toList := by
  obtain ⟨spans, spansParsed, same⟩ := Result.bind_eq_ok.mp parsed
  cases same
  exact parseSpans_eq_ok_iff.mp spansParsed

/-- A path that was read has a span, and each of its spans has a segment. -/
theorem spans_of_parse {text : String} {path : Path} (parsed : parse text = .ok path) :
    path.spans ≠ [] ∧ ∀ span ∈ path.spans, span ≠ [] := by
  obtain ⟨given, wellFormed⟩ := (spells_of_parse parsed).wellFormed
  exact ⟨given, fun span member => (wellFormed span member).1⟩

end Graft.Path
