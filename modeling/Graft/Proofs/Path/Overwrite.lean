/-
This file shows that of two writes at a stable path the last one wins: the tree is the one that
the second write alone leaves.
-/

import Graft.Proofs.Path.Stable

namespace Graft

namespace Node

/-- Where a value can be stored, another value of its kind can. -/
theorem Stores.of_kind {first second node : Node} {segment : Segment} {step : Step}
    (stores : Stores first node segment step) (kinds : first.kind = second.kind) :
    Stores second node segment step := by
  cases stores with
  | replaced named found allowed =>
      exact .replaced named found fun mapping => kinds ▸ allowed mapping
  | added missing => exact .added missing

/-- A write of another value of the kind takes the same steps, and what it leaves is the tree
after the first write with the other value at the end of the steps. -/
theorem Route.of_kind {first second node tree : Node} {span : Span} {steps : List Step}
    (route : Route first node span steps tree) (kinds : first.kind = second.kind) :
    Route second node span steps (tree.placeAt steps second) := by
  induction route with
  | @last node segment step stores =>
      have placed : (node.place step first).placeAt [step] second = node.place step second := by
        simp only [placeAt, child?_place_same stores.takes, place_place stores.takes]
      rw [placed]
      exact .last (stores.of_kind kinds)
  | @through node child changed segment next rest step steps advances _ inductionHypothesis =>
      have placed : (node.place step changed).placeAt (step :: steps) second =
          node.place step (changed.placeAt steps second) := by
        simp only [placeAt, child?_place_same advances.takes, place_place advances.takes]
      rw [placed]
      exact .through advances inductionHypothesis

/-- After a write in one document at a stable span, a write of another value of the kind leaves
the same tree as in the document before it. -/
theorem writeSpan_writeSpan {first second node tree : Node} {span : Span}
    (stable : Span.Stable span) (kinds : first.kind = second.kind)
    (written : node.writeSpan span first = .done tree) :
    ∃ last, tree.writeSpan span second = .done last ∧ node.writeSpan span second = .done last := by
  cases span with
  | nil => cases written
  | cons segment rest =>
      obtain ⟨steps, route⟩ := writeSpan_eq_done_iff.mp written
      have traced := trace_of_route route stable
      refine ⟨tree.placeAt steps second, writeSpan_of_trace (by simp) traced (.inr kinds), ?_⟩
      exact writeSpan_eq_done_iff.mpr ⟨steps, route.of_kind kinds⟩

/-- After a write at stable spans, a write of another value of the kind leaves the same tree as in
the tree before it. -/
theorem writeSpans_writeSpans {bound depth : Nat} {first second node tree : Node}
    {spans : List Span} (stable : ∀ span ∈ spans, Span.Stable span)
    (kinds : first.kind = second.kind)
    (readBack : ∀ document ∈ node.rendered bound depth first spans,
      Yaml.parse (Yaml.render document) = .ok document)
    (written : node.writeSpans bound depth first spans = .done tree) :
    ∃ last, tree.writeSpans bound depth second spans = .done last ∧
      node.writeSpans bound depth second spans = .done last := by
  induction spans generalizing node depth tree with
  | nil => cases written
  | cons span rest inductionHypothesis =>
      by_cases more : rest = []
      · subst more
        exact writeSpan_writeSpan (stable span (by simp)) kinds written
      · obtain ⟨room, steps, holder, document, edited, traced, nested, changed, rfl⟩ :=
          (writeSpans_cons_eq_done_iff more).mp written
        rw [rendered_cons more traced nested, changed] at readBack
        obtain ⟨last, again, alone⟩ := inductionHypothesis
          (fun span member => stable span (List.mem_cons_of_mem _ member))
          (fun document member => readBack document (List.mem_cons_of_mem _ member)) changed
        -- The second write finds the text of the first one and reads the edited document from it.
        have kept := trace_placeAt (stable span (by simp)) traced
          (kind_of_nestedDocument nested) (Yaml.render edited)
        have accepted := nestedDocument_render span (readBack edited (by simp [Edit.done]))
        refine ⟨node.placeAt steps (.text (Yaml.render last)), ?_, ?_⟩
        · exact (writeSpans_cons_eq_done_iff more).mpr ⟨room, steps, _, edited, last, kept,
            accepted, again, (placeAt_placeAt node steps _ _).symm⟩
        · exact (writeSpans_cons_eq_done_iff more).mpr
            ⟨room, steps, holder, document, last, traced, nested, alone, rfl⟩

/-- Of two values of one kind that are written at a stable path the last one wins: the second
write succeeds in the tree that the first one left, and also in the tree before it, with the same
tree. So a write that is repeated changes nothing. Each nested document that the first write put
into text has to be read back from it. -/
theorem write_write {path : Path} {bound : Nat} {first second node tree : Node}
    (stable : path.Stable) (kinds : first.kind = second.kind)
    (readBack : ∀ document ∈ node.rendered bound 0 first path.spans,
      Yaml.parse (Yaml.render document) = .ok document)
    (written : node.write path first bound = .done tree) :
    tree.write path first bound = .done tree ∧
      ∃ last, tree.write path second bound = .done last ∧
        node.write path second bound = .done last := by
  obtain ⟨same, again, alone⟩ := writeSpans_writeSpans stable (rfl : first.kind = first.kind)
    readBack written
  have repeated : tree.write path first bound = .done same := again
  cases written.symm.trans alone
  exact ⟨repeated, writeSpans_writeSpans stable kinds readBack written⟩

/-- In a nested document the first write adds an item with a port where a null was, and the second
one changes the port that it finds. -/
theorem write_write_port :
    let node : Node := .mapping [("config", .text "items: ~")]
    ∃ path tree, Path.parse "config|items[name=app].port" = .ok path ∧
      node.write path (.number (.whole 80)) 1 = .done tree ∧
      tree.write path (.number (.whole 80)) 1 = .done tree ∧
      ∃ last, tree.write path (.number (.whole 81)) 1 = .done last ∧
        node.write path (.number (.whole 81)) 1 = .done last := by
  intro node
  let path : Path := ⟨[[.key "config"], [.key "items", .predicate "name" "app", .key "port"]],
    "config|items[name=app].port"⟩
  have parsed : Path.parse "config|items[name=app].port" = .ok path := by decide +kernel
  have written : node.write path (.number (.whole 80)) 1 =
      .done (.mapping [("config", .text "items:\n- name: app\n  port: 80\n")]) := by
    decide +kernel
  exact ⟨path, _, parsed, written,
    write_write (by decide +kernel) rfl (by decide +kernel) written⟩

end Node

end Graft
