/-
This file shows that writes at two places of one document, of which neither lies in the other, can
be done in either order.
-/

import Graft.Path.Parse
import Graft.Proofs.Path.Stable

namespace Graft

namespace Node

variable {node old value : Node} {span : Span} {steps others : List Step}

/-- A plain span takes the same steps to the same node when a node is replaced that lies neither
on its way nor below its end. -/
theorem trace_placeAt_beside (plain : Span.Plain span) (notAbove : ¬ others <+: steps)
    (notBelow : ¬ steps <+: others) (traced : node.trace span = .ok (steps, old)) (given : Node) :
    (node.placeAt others given).trace span = .ok (steps, old) := by
  induction span generalizing node steps others with
  | nil =>
      cases traced
      exact absurd List.nil_prefix notBelow
  | cons segment rest inductionHypothesis =>
      obtain ⟨step, child, below, located, restTraced, rfl⟩ := trace_cons_eq_ok_iff.mp traced
      obtain ⟨named, found⟩ := locate_eq_ok_iff.mp located
      cases others with
      | nil => exact absurd List.nil_prefix notAbove
      | cons other others =>
          rw [placeAt]
          cases present : node.child? other with
          | none => exact traced
          | some beside =>
              have taken := takes_of_child present
              have again : (node.place other (beside.placeAt others given)).address segment =
                  some step := (address_place plain.head node other _).trans named
              by_cases same : other = step
              · -- Both go on in the same child, where they part further down.
                subst same
                obtain rfl := Option.some.inj (found.symm.trans present)
                simp only [List.cons_prefix_cons, true_and] at notAbove notBelow
                have restAgain := inductionHypothesis plain.tail notAbove notBelow restTraced
                exact trace_cons_eq_ok_iff.mpr ⟨other, _, below,
                  locate_eq_ok_iff.mpr ⟨again, child?_place_same taken _⟩, restAgain, rfl⟩
              · have kept := (child?_place_other taken (Ne.symm same)
                  (beside.placeAt others given)).trans found
                exact trace_cons_eq_ok_iff.mpr ⟨step, child, below,
                  locate_eq_ok_iff.mpr ⟨again, kept⟩, restTraced, rfl⟩

/-- A plain span that can be written can also be written, in the same place, after a node was
replaced that lies neither on its way nor below its end. -/
theorem writeSpan_placeAt_beside {tree : Node} (inhabited : span ≠ []) (plain : Span.Plain span)
    (notAbove : ¬ others <+: steps) (notBelow : ¬ steps <+: others)
    (traced : node.trace span = .ok (steps, old)) (written : node.writeSpan span value = .done tree)
    (given : Node) :
    (node.placeAt others given).writeSpan span value =
      .done ((node.placeAt others given).placeAt steps value) := by
  have allowed := ((writeSpan_eq_done_iff_of_trace inhabited traced).mp written).1
  have kept := trace_placeAt_beside plain notAbove notBelow traced given
  exact (writeSpan_eq_done_iff_of_trace inhabited kept).mpr ⟨allowed, rfl⟩

/-- A write that succeeds has a segment to go through. -/
theorem inhabited_of_writeSpan {tree : Node} (written : node.writeSpan span value = .done tree) :
    span ≠ [] := by
  rintro rfl
  cases written

/-- Two writes in one document, at plain paths that lead to nodes of which neither lies in the
other, succeed in either order with the same tree, if each of them succeeds by itself. It does not
matter how the paths spell the positions of items. -/
theorem write_comm {first second : Path} {other : Span} {bound : Nat}
    {found given left right : Node} (firstSingle : first.spans = [span])
    (secondSingle : second.spans = [other]) (firstPlain : first.Plain) (secondPlain : second.Plain)
    (firstTraced : node.trace span = .ok (steps, old))
    (secondTraced : node.trace other = .ok (others, found))
    (notAbove : ¬ steps <+: others) (notBelow : ¬ others <+: steps)
    (firstWritten : node.write first value bound = .done left)
    (secondWritten : node.write second given bound = .done right) :
    ∃ last, left.write second given bound = .done last ∧
      right.write first value bound = .done last := by
  have spanPlain : Span.Plain span := firstPlain span (by simp [firstSingle])
  have otherPlain : Span.Plain other := secondPlain other (by simp [secondSingle])
  simp only [write, firstSingle, secondSingle, writeSpans] at firstWritten secondWritten ⊢
  have inhabited := inhabited_of_writeSpan firstWritten
  have otherInhabited := inhabited_of_writeSpan secondWritten
  obtain ⟨-, rfl⟩ := (writeSpan_eq_done_iff_of_trace inhabited firstTraced).mp firstWritten
  obtain ⟨-, rfl⟩ := (writeSpan_eq_done_iff_of_trace otherInhabited secondTraced).mp secondWritten
  refine ⟨(node.placeAt steps value).placeAt others given, ?_, ?_⟩
  · exact writeSpan_placeAt_beside otherInhabited otherPlain notAbove notBelow secondTraced
      secondWritten value
  · rw [placeAt_comm notAbove notBelow (at?_of_trace firstTraced) (at?_of_trace secondTraced)]
    exact writeSpan_placeAt_beside inhabited spanPlain notBelow notAbove firstTraced firstWritten
      given

/-- An item becomes a mapping and a null in the item after it, whose position is spelt as a key,
becomes a list. -/
theorem write_comm_items :
    let node : Node := .mapping [("items", .sequence [.text "a",
      .mapping [("name", .text "b"), ("ports", .null)]])]
    let value : Node := .mapping [("name", .text "c")]
    ∃ first second left right, Path.parse "items[0]" = .ok first ∧
      Path.parse "items.1.ports" = .ok second ∧
      node.write first value 16 = .done left ∧
      node.write second (.sequence []) 16 = .done right ∧
      ∃ last, left.write second (.sequence []) 16 = .done last ∧
        right.write first value 16 = .done last := by
  intro node value
  let first : Path := ⟨[[.key "items", .index 0]], "items[0]"⟩
  let second : Path := ⟨[[.key "items", .key "1", .key "ports"]], "items.1.ports"⟩
  let steps : List Step := [.key "items", .position 0]
  let others : List Step := [.key "items", .position 1, .key "ports"]
  have parsed : Path.parse "items[0]" = .ok first := by decide +kernel
  have otherParsed : Path.parse "items.1.ports" = .ok second := by decide +kernel
  have plain : first.Plain := by
    intro span member
    obtain rfl := List.mem_singleton.mp member
    simp [Span.Plain]
  have otherPlain : second.Plain := by
    intro span member
    obtain rfl := List.mem_singleton.mp member
    simp [Span.Plain]
  have traced : node.trace [.key "items", .index 0] = .ok (steps, .text "a") := by
    decide +kernel
  have otherTraced : node.trace [.key "items", .key "1", .key "ports"] = .ok (others, .null) := by
    decide +kernel
  have written : node.write first value 16 = .done (node.placeAt steps value) := by
    decide +kernel
  have otherWritten : node.write second (.sequence []) 16 =
      .done (node.placeAt others (.sequence [])) := by decide +kernel
  exact ⟨first, second, _, _, parsed, otherParsed, written, otherWritten,
    write_comm rfl rfl plain otherPlain traced otherTraced (by decide) (by decide) written
      otherWritten⟩

end Node

end Graft
