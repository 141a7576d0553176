/-
This file states what is read as a path, and that a path that was read always has a segment to
follow: neither a read nor a write at it fails because the path is empty.
-/

import Graft.Proofs.Path.Cause

namespace Graft

namespace Node

/-- A read at some spans does not fail for want of a span. -/
theorem readSpans_ne_empty {spans : List Span} (given : spans ≠ []) (bound depth : Nat)
    (node : Node) : node.readSpans bound depth spans ≠ .error .empty := by
  intro failed
  rcases cause_of_readSpans failed with ⟨-, none⟩ | ⟨other, -⟩ | ⟨deep, -⟩
  · exact given none
  · exact other rfl
  · cases deep

/-- A write at some spans with segments does not fail for want of either. -/
theorem writeSpans_ne_empty {spans : List Span} (given : spans ≠ [])
    (inhabited : ∀ span ∈ spans, span ≠ []) (bound depth : Nat) (node value : Node) :
    (node.writeSpans bound depth value spans).result ≠ .error .empty := by
  intro failed
  rcases cause_of_writeSpans failed with ⟨-, none | empty⟩ | ⟨other, -⟩ | ⟨deep, -⟩
  · exact given none
  · exact inhabited [] empty rfl
  · exact other rfl
  · cases deep

end Node

namespace Path

/-- A text is read as exactly the spans that it spells by the grammar of paths. So a path that was
read has a span, each of its spans has a segment, no key is empty, and neither a read nor a write
at it fails because the path is empty. -/
theorem parse_spells (text : String) :
    (∀ spans, parseSpans text = .ok spans ↔ Spells spans text.toList) ∧
      ∀ path, parse text = .ok path →
        path.spans ≠ [] ∧ (∀ span ∈ path.spans, span ≠ [] ∧ Segment.key "" ∉ span) ∧
        ∀ (node value : Node) (bound : Nat), node.read path bound ≠ .error .empty ∧
          (node.write path value bound).failure? ≠ some .empty := by
  refine ⟨fun spans => parseSpans_eq_ok_iff, fun path parsed => ?_⟩
  obtain ⟨given, wellFormed⟩ := (spells_of_parse parsed).wellFormed
  have inhabited : ∀ span ∈ path.spans, span ≠ [] := fun span member => (wellFormed span member).1
  refine ⟨given, fun span member => ⟨inhabited span member, fun empty => ?_⟩,
    fun node value bound => ⟨Node.readSpans_ne_empty given bound 0 node, fun failed => ?_⟩⟩
  · exact (wellFormed span member).2 _ empty rfl
  · exact Node.writeSpans_ne_empty given inhabited bound 0 node value
      (Edit.result_eq_error_iff.mpr failed)

/-- An escaped point belongs to a key, a bar between brackets belongs to a value, and points at
the ends of spans say nothing. -/
theorem parse_spells_mixed :
    let text := ".a\\.b[07][k=v|w=].c|[=x]."
    let path : Path :=
      ⟨[[.key "a.b", .index 7, .predicate "k" "v|w=", .key "c"], [.predicate "" "x"]], text⟩
    parse text = .ok path ∧ Spells path.spans text.toList ∧
      path.spans ≠ [] ∧ (∀ span ∈ path.spans, span ≠ [] ∧ Segment.key "" ∉ span) ∧
      ∀ (node value : Node) (bound : Nat), node.read path bound ≠ .error .empty ∧
        (node.write path value bound).failure? ≠ some .empty := by
  intro text path
  have parsed : parse text = .ok path := by decide +kernel
  have spansParsed : parseSpans text = .ok path.spans := by decide +kernel
  obtain ⟨accepted, followed⟩ := parse_spells text
  exact ⟨parsed, (accepted path.spans).mp spansParsed, followed path parsed⟩

end Path

end Graft
