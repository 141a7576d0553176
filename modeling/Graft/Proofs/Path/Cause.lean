/-
This file sorts the failures of reads and writes: there is nothing to follow, the tree of one
document does not suit the path, or documents are nested too deep.
-/

import Graft.Proofs.Path.Halt

namespace Graft

open Graft.Path (Failure)
open Result (FailsOnly)

namespace Path.Failure

/-- A failure that does not say that documents are nested too deep. -/
def Shallow (failure : Failure) : Prop := ∀ bound, failure ≠ .depthExceeded bound

/-- A failure that comes from the tree of one document, and neither from a path without segments
nor from the bound on nested documents. -/
def InDocument (failure : Failure) : Prop := failure ≠ .empty ∧ failure.Shallow

theorem inDocument_iff {failure : Failure} :
    failure.InDocument ↔ failure ≠ .empty ∧ ∀ bound, failure ≠ .depthExceeded bound := .rfl

end Path.Failure

namespace Node

/-- A node of the wrong kind is a cause in its document. -/
theorem mismatch_inDocument (node : Node) (segment : Segment) (expected : Kind) :
    (node.mismatch segment expected).InDocument := by
  simp [mismatch, Failure.inDocument_iff]

/-- A segment leads nowhere for a cause in its document. -/
theorem locate_failsOnly (node : Node) (segment : Segment) :
    FailsOnly Failure.InDocument (node.locate segment) := by
  intro failure failed
  rw [locate.eq_def] at failed
  split at failed
  · split at failed <;> cases failed
    simp [Failure.inDocument_iff]
  · split at failed <;> cases failed
    simp [Failure.inDocument_iff]
  · split at failed
    · split at failed <;> cases failed
      simp [Failure.inDocument_iff]
    · cases failed
      exact mismatch_inDocument _ _ _
  · cases failed
    exact mismatch_inDocument _ _ _
  · cases failed
    exact mismatch_inDocument _ _ _

/-- The segments of a span lead nowhere for a cause in their document. -/
theorem trace_failsOnly (node : Node) (span : Span) :
    FailsOnly Failure.InDocument (node.trace span) := by
  induction span generalizing node with
  | nil => exact .ok _
  | cons segment rest inductionHypothesis =>
      rw [trace]
      exact (node.locate_failsOnly segment).bind fun found =>
        (inductionHypothesis found.2).bind fun _ => .ok _

/-- A span leads to no node for a cause in its document. -/
theorem resolve_failsOnly (node : Node) (span : Span) :
    FailsOnly Failure.InDocument (node.resolve span) :=
  (node.trace_failsOnly span).map _

/-- A node holds no document for a cause in its own one. -/
theorem nestedDocument_failsOnly (node : Node) (span : Span) :
    FailsOnly Failure.InDocument (node.nestedDocument span) := by
  intro failure failed
  rw [nestedDocument] at failed
  split at failed
  · cases failed
    simp [Failure.inDocument_iff]
  · split at failed <;> cases failed
    simp [Failure.inDocument_iff]

/-- A child cannot be entered for a cause in its document. -/
theorem enter_failsOnly (child : Node) (segment next : Segment) :
    FailsOnly Failure.InDocument (child.enter segment next) := by
  rw [enter]
  split
  · exact .ok _
  · split
    · exact .ok _
    · split
      · exact .error (by simp [Failure.inDocument_iff])
      · exact .error (mismatch_inDocument _ _ _)

/-- A segment cannot be walked through for a cause in its document. -/
theorem advance_failsOnly (node : Node) (segment next : Segment) :
    FailsOnly Failure.InDocument (node.advance segment next) := by
  rw [advance]
  split
  · rename_i step child _
    exact (child.enter_failsOnly segment next).bind fun _ => .ok _
  · rename_i failure missing
    have cause := node.locate_failsOnly segment failure missing
    split
    · exact .ok _
    · split
      · exact .ok _
      · exact .error cause
    · exact .error cause

/-- An entry cannot be replaced for a cause in its document. -/
theorem checkReplaceable_failsOnly (existing : Node) (segment : Segment) (kind : Kind) :
    FailsOnly Failure.InDocument (existing.checkReplaceable segment kind) := by
  rw [checkReplaceable]
  split
  · exact .ok _
  · split
    · exact .error (by simp [Failure.inDocument_iff])
    · exact .error (mismatch_inDocument _ _ _)

/-- A value cannot be stored for a cause in its document. -/
theorem assign_failsOnly (node value : Node) (segment : Segment) :
    FailsOnly Failure.InDocument (node.assign segment value) := by
  rw [assign]
  split
  · rename_i step existing _
    split
    · exact (existing.checkReplaceable_failsOnly segment value.kind).bind fun _ => .ok _
    · exact .ok _
  · rename_i failure missing
    split
    · exact .ok _
    · exact .error (node.locate_failsOnly segment failure missing)

/-- A write along some segments fails for a cause in their document. -/
theorem Halts.inDocument {value node tree : Node} {span : Span} {failure : Failure}
    (halts : Halts value failure node span tree) (given : span ≠ []) : failure.InDocument := by
  induction halts with
  | empty _ => exact absurd rfl given
  | refused failed => exact assign_failsOnly _ _ _ _ failed
  | blocked failed => exact advance_failsOnly _ _ _ _ failed
  | through _ _ inductionHypothesis => exact inductionHypothesis (by simp)

/-- A write in one document fails for a cause in it, if there is a segment. -/
theorem writeSpan_failsOnly {span : Span} (given : span ≠ []) (node value : Node) :
    FailsOnly Failure.InDocument (node.writeSpan span value).result := by
  intro failure failed
  obtain ⟨segment, rest, rfl⟩ := List.exists_cons_of_ne_nil given
  have halted : node.writeSpan (segment :: rest) value =
      .failed (node.writeSpan (segment :: rest) value).tree failure := by
    rw [Edit.failed, ← Edit.result_eq_error_iff.mp failed]
  exact (writeSpan_eq_failed_iff.mp halted).inDocument (by simp)

/-- A read fails because there is no span, for a cause in one of its documents, or because it
enters more documents than the bound allows. -/
theorem cause_of_readSpans {bound depth : Nat} {node : Node} {spans : List Span}
    {failure : Failure} (failed : node.readSpans bound depth spans = .error failure) :
    failure = .empty ∧ spans = [] ∨ failure.InDocument ∨
      failure = .depthExceeded bound ∧ bound < depth + (spans.length - 1) := by
  induction spans generalizing node depth with
  | nil =>
      cases failed
      exact .inl ⟨rfl, rfl⟩
  | cons span rest inductionHypothesis =>
      by_cases more : rest = []
      · subst more
        exact .inr (.inl (node.resolve_failsOnly span failure failed))
      · have length : rest.length ≠ 0 := by simpa using more
        rcases Nat.lt_or_ge depth bound with room | deep
        · rw [readSpans_cons room node span more] at failed
          rcases Result.bind_eq_error.mp failed with missing | ⟨target, -, entered⟩
          · exact .inr (.inl (node.resolve_failsOnly span failure missing))
          · rcases Result.bind_eq_error.mp entered with missing | ⟨document, -, inRest⟩
            · exact .inr (.inl (target.nestedDocument_failsOnly span failure missing))
            · rcases inductionHypothesis inRest with ⟨-, none⟩ | inside | ⟨tooDeep, exceeded⟩
              · exact absurd none more
              · exact .inr (.inl inside)
              · refine .inr (.inr ⟨tooDeep, ?_⟩)
                simp only [List.length_cons]
                omega
        · rw [readSpans_deep deep node span more] at failed
          rcases Result.bind_eq_error.mp failed with missing | ⟨_, -, refused⟩
          · exact .inr (.inl (node.resolve_failsOnly span failure missing))
          · cases refused
            refine .inr (.inr ⟨rfl, ?_⟩)
            simp only [List.length_cons]
            omega

/-- A write fails because a span or a segment is missing, for a cause in one of its documents, or
because it enters more documents than the bound allows. -/
theorem cause_of_writeSpans {bound depth : Nat} {node value : Node} {spans : List Span}
    {failure : Failure}
    (failed : (node.writeSpans bound depth value spans).result = .error failure) :
    failure = .empty ∧ (spans = [] ∨ [] ∈ spans) ∨ failure.InDocument ∨
      failure = .depthExceeded bound ∧ bound < depth + (spans.length - 1) := by
  induction spans generalizing node depth with
  | nil =>
      cases failed
      exact .inl ⟨rfl, .inl rfl⟩
  | cons span rest inductionHypothesis =>
      by_cases more : rest = []
      · subst more
        by_cases given : span = []
        · subst given
          cases failed
          exact .inl ⟨rfl, .inr (by simp)⟩
        · exact .inr (.inl (writeSpan_failsOnly given node value failure failed))
      · have length : rest.length ≠ 0 := by simpa using more
        rcases Nat.lt_or_ge depth bound with room | deep
        · rw [writeSpans_cons room node value span more, Edit.result_ofExcept] at failed
          rcases Result.bind_eq_error.mp failed with missing | ⟨⟨steps, holder⟩, -, nested⟩
          · exact .inr (.inl (node.trace_failsOnly span failure missing))
          · rcases Result.bind_eq_error.mp nested with missing | ⟨document, -, inRest⟩
            · exact .inr (.inl (holder.nestedDocument_failsOnly span failure missing))
            · rcases Result.bind_eq_error.mp inRest with missing | ⟨_, -, returned⟩
              · rcases inductionHypothesis missing with
                  ⟨rfl, none | empty⟩ | inside | ⟨deep, exceeded⟩
                · exact absurd none more
                · exact .inl ⟨rfl, .inr (List.mem_cons_of_mem _ empty)⟩
                · exact .inr (.inl inside)
                · refine .inr (.inr ⟨deep, ?_⟩)
                  simp only [List.length_cons]
                  omega
              · cases returned
        · rw [writeSpans_deep deep node value span more] at failed
          cases failed
          refine .inr (.inr ⟨rfl, ?_⟩)
          simp only [List.length_cons]
          omega

end Node

end Graft
