/-
This file shows that a write of the value that is there changes nothing but the texts of the
nested documents on the way.
-/

import Graft.Proofs.Path.Nested

namespace Graft

namespace Node

/-- What a write of the value at the spans leaves of a tree: in one document nothing changes. If
a document is nested in a scalar, the text of that scalar is replaced by the text of the document
after the write of the remaining spans, and that document changed in the same way. -/
def Rewritten (bound : Nat) (value : Node) : List Span → Node → Node → Prop
  | [], _, _ => False
  | [_], before, after => after = before
  | span :: next :: rest, before, after =>
      ∃ steps holder written document edited,
        before.trace span = .ok (steps, holder) ∧ holder.scalarText? = some written ∧
        Yaml.parse written = .ok document ∧
        document.writeSpans bound 0 value (next :: rest) = .done edited ∧
        Replaced holder (.text (Yaml.render edited)) steps before after ∧
        Rewritten bound value (next :: rest) document edited

/-- A read that starts within the bound and succeeds had room for all its documents. -/
theorem room_of_readSpans {bound depth : Nat} {node target : Node} {spans : List Span}
    (start : depth ≤ bound) (read : node.readSpans bound depth spans = .ok target) :
    depth + (spans.length - 1) ≤ bound := by
  induction spans generalizing node depth with
  | nil => cases read
  | cons span rest inductionHypothesis =>
      by_cases more : rest = []
      · subst more
        exact start
      · obtain ⟨room, _, _, _, _, _, restRead⟩ := (readSpans_cons_eq_ok_iff more).mp read
        have length : rest.length ≠ 0 := by simpa using more
        have inner := inductionHypothesis room restRead
        simp only [List.length_cons, Nat.add_sub_cancel]
        omega

/-- A write of the value that is there rewrites the nested documents only. -/
theorem rewritten_of_readSpans {bound depth : Nat} {node current tree : Node} {spans : List Span}
    (inhabited : ∀ span ∈ spans, span ≠ [])
    (read : node.readSpans bound depth spans = .ok current)
    (written : node.writeSpans bound depth current spans = .done tree) :
    Rewritten bound current spans node tree := by
  induction spans generalizing node depth tree with
  | nil => cases read
  | cons span rest inductionHypothesis =>
      cases rest with
      | nil =>
          obtain ⟨steps, traced⟩ := resolve_eq_ok_iff.mp read
          have stored : node.writeSpan span current = .done (node.placeAt steps current) :=
            writeSpan_of_trace (inhabited span (by simp)) traced (.inr rfl)
          rw [placeAt_found (at?_of_trace traced)] at stored
          exact congrArg Edit.tree (written.symm.trans stored)
      | cons next rest =>
          obtain ⟨room, steps, holder, document, traced, nested, restRead⟩ :=
            (readSpans_cons_eq_ok_iff (by simp)).mp read
          obtain ⟨_, _, _, _, edited, sameTrace, sameNested, changed, rfl⟩ :=
            (writeSpans_cons_eq_done_iff (by simp)).mp written
          cases traced.symm.trans sameTrace
          cases nested.symm.trans sameNested
          obtain ⟨text, textual, accepted⟩ := nestedDocument_eq_ok_iff.mp nested
          have inner := room_of_readSpans room restRead
          have atStart : document.writeSpans bound 0 current (next :: rest) = .done edited := by
            rw [writeSpans_room (by omega) inner document current]
            exact changed
          have below := inductionHypothesis
            (fun span member => inhabited span (List.mem_cons_of_mem _ member)) restRead changed
          exact ⟨steps, holder, text, document, edited, traced, textual, accepted, atStart,
            replaced_placeAt (at?_of_trace traced) _, below⟩

/-- A value of the kind that is read at a path can be written there. A write of the value itself
leaves a tree in one document as it was, key order included, and through nested documents it
changes only the scalars that hold them. -/
theorem write_read {text : String} {path : Path} {bound : Nat} {node current : Node}
    (parsed : Path.parse text = .ok path) (read : node.read path bound = .ok current) :
    (∀ value : Node, value.kind = current.kind → ∃ tree, node.write path value bound = .done tree) ∧
      ∃ tree, node.write path current bound = .done tree ∧
        Rewritten bound current path.spans node tree := by
  have inhabited := (Path.spans_of_parse parsed).2
  have succeeds (value : Node) (kinds : value.kind = current.kind) :
      ∃ tree, node.write path value bound = .done tree :=
    writeSpans_of_readSpans inhabited read kinds.symm
  obtain ⟨tree, written⟩ := succeeds current rfl
  exact ⟨succeeds, tree, written, rewritten_of_readSpans inhabited read written⟩

/-- The port of a nested document is written back to it. -/
theorem write_read_port :
    Path.parse "config|port" = .ok ⟨[[.key "config"], [.key "port"]], "config|port"⟩ ∧
      (Node.mapping [("config", .text "port: 80")]).read
        ⟨[[.key "config"], [.key "port"]], "config|port"⟩ 1 = .ok (.number (.whole 80)) ∧
      ∃ tree, (Node.mapping [("config", .text "port: 80")]).write
          ⟨[[.key "config"], [.key "port"]], "config|port"⟩ (.number (.whole 80)) 1 = .done tree ∧
        Rewritten 1 (.number (.whole 80)) [[.key "config"], [.key "port"]]
          (.mapping [("config", .text "port: 80")]) tree := by
  have parsed : Path.parse "config|port" =
      .ok ⟨[[.key "config"], [.key "port"]], "config|port"⟩ := by decide +kernel
  have read : (Node.mapping [("config", .text "port: 80")]).read
      ⟨[[.key "config"], [.key "port"]], "config|port"⟩ 1 = .ok (.number (.whole 80)) := by
    decide +kernel
  exact ⟨parsed, read, (write_read parsed read).2⟩

end Node

end Graft
