/-
This file shows that a write into a nested document reads the document, edits it, and writes its
text back.
-/

import Graft.Proofs.Node.Equality
import Graft.Proofs.Path.Route
import Graft.Proofs.Path.Spans

namespace Graft

open Graft.Path (Failure)

namespace Edit

/-- The tree of an edit that succeeded, or the cause of its failure. -/
def result (edit : Edit) : Except Failure Node :=
  match edit.failure? with
  | none => .ok edit.tree
  | some failure => .error failure

@[simp] theorem result_done (tree : Node) : (done tree).result = .ok tree := rfl

@[simp] theorem result_failed (tree : Node) (failure : Failure) :
    (failed tree failure).result = .error failure := rfl

/-- A result without partial changes is kept. -/
@[simp] theorem result_ofExcept (tree : Node) (result : Except Failure Node) :
    (ofExcept tree result).result = result := by
  cases result <;> rfl

/-- An edit has a tree as its result exactly when it is done with that tree. -/
theorem result_eq_ok_iff {edit : Edit} {tree : Node} :
    edit.result = .ok tree ↔ edit = done tree := by
  obtain ⟨changed, failure?⟩ := edit
  cases failure? <;> simp [result, done]

/-- An edit has a failure as its result exactly when it failed with it. -/
theorem result_eq_error_iff {edit : Edit} {failure : Failure} :
    edit.result = .error failure ↔ edit.failure? = some failure := by
  obtain ⟨changed, failure?⟩ := edit
  cases failure? <;> simp [result]

end Edit

namespace Node

/-- Only scalars have a text. -/
theorem scalarText?_eq_none_iff {node : Node} : node.scalarText? = none ↔ node.kind ≠ .scalar := by
  cases node <;> simp [scalarText?, kind]

/-- A nested document is the document that a scalar's text is read as. -/
theorem nestedDocument_eq_ok_iff {holder document : Node} {span : Span} :
    holder.nestedDocument span = .ok document ↔
      ∃ written, holder.scalarText? = some written ∧ Yaml.parse written = .ok document := by
  rw [nestedDocument]
  split
  · rename_i none
    simp [none]
  · rename_i written some
    split <;> simp_all

/-- A container holds no nested document. -/
theorem nestedDocument_container {holder : Node} {span : Span} (container : holder.kind ≠ .scalar) :
    holder.nestedDocument span = .error (.kindMismatch span.text .scalar holder.kind) := by
  simp only [nestedDocument, scalarText?_eq_none_iff.mpr container]

/-- A text that is not a document is reported with its fault. -/
theorem nestedDocument_rejected {holder : Node} {span : Span} {written : String}
    {fault : Yaml.Fault} (textual : holder.scalarText? = some written)
    (rejected : Yaml.parse written = .error fault) :
    holder.nestedDocument span = .error (.nestedDocument span.text fault) := by
  simp only [nestedDocument, textual, rejected]

/-- A nested document lies in a scalar. -/
theorem kind_of_nestedDocument {holder document : Node} {span : Span}
    (nested : holder.nestedDocument span = .ok document) : holder.kind = .scalar := by
  obtain ⟨written, textual, _⟩ := nestedDocument_eq_ok_iff.mp nested
  cases holder <;> first | rfl | cases textual

/-- A read through a nested document goes on in that document. -/
theorem readSpans_cons {bound depth : Nat} (room : depth < bound) (node : Node) (span : Span)
    {rest : List Span} (more : rest ≠ []) :
    node.readSpans bound depth (span :: rest) = (do
      let target ← node.resolve span
      let document ← target.nestedDocument span
      document.readSpans bound (depth + 1) rest) := by
  have inside : ¬ bound ≤ depth := by omega
  rw [readSpans]
  · simp only [if_neg inside]
  · exact more

/-- A read through a nested document that lies too deep looks for its holder first. -/
theorem readSpans_deep {bound depth : Nat} (deep : bound ≤ depth) (node : Node) (span : Span)
    {rest : List Span} (more : rest ≠ []) :
    node.readSpans bound depth (span :: rest) =
      (node.resolve span >>= fun _ => .error (.depthExceeded bound)) := by
  rw [readSpans]
  · simp only [if_pos deep]
    rfl
  · exact more

/-- A write through a nested document that lies too deep fails at once. -/
theorem writeSpans_deep {bound depth : Nat} (deep : bound ≤ depth) (node value : Node)
    (span : Span) {rest : List Span} (more : rest ≠ []) :
    node.writeSpans bound depth value (span :: rest) = .failed node (.depthExceeded bound) := by
  rw [writeSpans, if_pos deep]
  exact more

/-- A write through a nested document changes that document and writes its text in place. -/
theorem writeSpans_cons {bound depth : Nat} (room : depth < bound) (node value : Node)
    (span : Span) {rest : List Span} (more : rest ≠ []) :
    node.writeSpans bound depth value (span :: rest) = .ofExcept node (do
      let (steps, holder) ← node.trace span
      let document ← holder.nestedDocument span
      let edited ← (document.writeSpans bound (depth + 1) value rest).result
      return node.placeAt steps (.text (Yaml.render edited))) := by
  have inside : ¬ bound ≤ depth := by omega
  rw [writeSpans, if_neg inside]
  · congr 1
    refine bind_congr fun (steps, holder) => bind_congr fun document => ?_
    obtain ⟨edited, failure?⟩ := document.writeSpans bound (depth + 1) value rest
    cases failure? <;> rfl
  · exact more

/-- A read through a nested document succeeds when there is room for the document, the span leads
to its holder, and the rest of the read succeeds in it. -/
theorem readSpans_cons_eq_ok_iff {bound depth : Nat} {node target : Node} {span : Span}
    {rest : List Span} (more : rest ≠ []) :
    node.readSpans bound depth (span :: rest) = .ok target ↔
      depth < bound ∧ ∃ steps holder document, node.trace span = .ok (steps, holder) ∧
        holder.nestedDocument span = .ok document ∧
        document.readSpans bound (depth + 1) rest = .ok target := by
  constructor
  · intro read
    rcases Nat.lt_or_ge depth bound with room | deep
    · rw [readSpans_cons room node span more] at read
      obtain ⟨holder, resolved, nestedRead⟩ := Result.bind_eq_ok.mp read
      obtain ⟨document, nested, restRead⟩ := Result.bind_eq_ok.mp nestedRead
      obtain ⟨steps, traced⟩ := resolve_eq_ok_iff.mp resolved
      exact ⟨room, steps, holder, document, traced, nested, restRead⟩
    · rw [readSpans_deep deep node span more] at read
      obtain ⟨holder, -, refused⟩ := Result.bind_eq_ok.mp read
      cases refused
  · rintro ⟨room, steps, holder, document, traced, nested, restRead⟩
    rw [readSpans_cons room node span more]
    exact Result.bind_eq_ok.mpr ⟨holder, resolve_eq_ok_iff.mpr ⟨steps, traced⟩,
      Result.bind_eq_ok.mpr ⟨document, nested, restRead⟩⟩

/-- A write through a nested document succeeds when there is room for the document, the span leads
to its holder, and the rest of the write succeeds in it. -/
theorem writeSpans_cons_eq_done_iff {bound depth : Nat} {node value tree : Node} {span : Span}
    {rest : List Span} (more : rest ≠ []) :
    node.writeSpans bound depth value (span :: rest) = .done tree ↔
      depth < bound ∧ ∃ steps holder document edited, node.trace span = .ok (steps, holder) ∧
        holder.nestedDocument span = .ok document ∧
        document.writeSpans bound (depth + 1) value rest = .done edited ∧
        tree = node.placeAt steps (.text (Yaml.render edited)) := by
  rw [← Edit.result_eq_ok_iff]
  constructor
  · intro written
    rcases Nat.lt_or_ge depth bound with room | deep
    · rw [writeSpans_cons room node value span more, Edit.result_ofExcept] at written
      obtain ⟨⟨steps, holder⟩, traced, nestedWritten⟩ := Result.bind_eq_ok.mp written
      obtain ⟨document, nested, restWritten⟩ := Result.bind_eq_ok.mp nestedWritten
      obtain ⟨edited, changed, same⟩ := Result.bind_eq_ok.mp restWritten
      cases same
      exact ⟨room, steps, holder, document, edited, traced, nested,
        Edit.result_eq_ok_iff.mp changed, rfl⟩
    · rw [writeSpans_deep deep node value span more] at written
      cases written
  · rintro ⟨room, steps, holder, document, edited, traced, nested, changed, rfl⟩
    rw [writeSpans_cons room node value span more, Edit.result_ofExcept]
    exact Result.bind_eq_ok.mpr ⟨(steps, holder), traced, Result.bind_eq_ok.mpr ⟨document, nested,
      Result.bind_eq_ok.mpr ⟨edited, Edit.result_eq_ok_iff.mpr changed, rfl⟩⟩⟩

/-- Where a read succeeds, a write of a value of the same kind does. -/
theorem writeSpans_of_readSpans {bound depth : Nat} {node target value : Node} {spans : List Span}
    (inhabited : ∀ span ∈ spans, span ≠ []) (read : node.readSpans bound depth spans = .ok target)
    (kinds : target.kind = value.kind) :
    ∃ tree, node.writeSpans bound depth value spans = .done tree := by
  induction spans generalizing node depth with
  | nil => cases read
  | cons span rest inductionHypothesis =>
      by_cases more : rest = []
      · subst more
        obtain ⟨steps, traced⟩ := resolve_eq_ok_iff.mp read
        exact ⟨_, writeSpan_of_trace (inhabited span (by simp)) traced (.inr kinds)⟩
      · obtain ⟨room, steps, holder, document, traced, nested, restRead⟩ :=
          (readSpans_cons_eq_ok_iff more).mp read
        obtain ⟨edited, changed⟩ :=
          inductionHypothesis (fun span member => inhabited span (by simp [member])) restRead
        exact ⟨_, (writeSpans_cons_eq_done_iff more).mpr
          ⟨room, steps, holder, document, edited, traced, nested, changed, rfl⟩⟩

/-- With room for all its documents, a write does not depend on the bound. -/
theorem writeSpans_room {bound depth otherBound otherDepth : Nat} {spans : List Span}
    (room : depth + (spans.length - 1) ≤ bound)
    (otherRoom : otherDepth + (spans.length - 1) ≤ otherBound) (node value : Node) :
    node.writeSpans bound depth value spans =
      node.writeSpans otherBound otherDepth value spans := by
  induction spans generalizing node depth otherDepth with
  | nil => rfl
  | cons span rest inductionHypothesis =>
      by_cases more : rest = []
      · subst more
        rfl
      · have length : rest.length ≠ 0 := by simpa using more
        simp only [List.length_cons, Nat.add_sub_cancel] at room otherRoom
        rw [writeSpans_cons (by omega) node value span more,
          writeSpans_cons (by omega) node value span more]
        congr 1
        refine bind_congr fun (steps, holder) => bind_congr fun document => ?_
        have inner : depth + 1 + (rest.length - 1) ≤ bound := by omega
        have otherInner : otherDepth + 1 + (rest.length - 1) ≤ otherBound := by omega
        rw [inductionHypothesis inner otherInner document]

/-- A write through a nested document that fails leaves the tree as it was. -/
theorem writeSpans_eq_ofExcept (bound depth : Nat) (node value : Node) (span : Span)
    {rest : List Span} (more : rest ≠ []) :
    node.writeSpans bound depth value (span :: rest) =
      .ofExcept node (node.writeSpans bound depth value (span :: rest)).result := by
  rcases Nat.lt_or_ge depth bound with room | deep
  · rw [writeSpans_cons room node value span more, Edit.result_ofExcept]
  · rw [writeSpans_deep deep node value span more]
    rfl

/-- A write that goes on through nested documents reads the holder of a document, edits the
document, and writes the text of the edited document to the holder. -/
theorem result_writeSpans_append {bound depth : Nat} {before rest : List Span} {last : Span}
    (room : depth + before.length + rest.length ≤ bound) (more : rest ≠ []) (segments : last ≠ [])
    (node value : Node) :
    (node.writeSpans bound depth value (before ++ last :: rest)).result = (do
      let holder ← node.readSpans bound depth (before ++ [last])
      let document ← holder.nestedDocument last
      let edited ← (document.writeSpans bound (depth + before.length + 1) value rest).result
      (node.writeSpans bound depth (.text (Yaml.render edited)) (before ++ [last])).result) := by
  have restLength : rest.length ≠ 0 := by simpa using more
  induction before generalizing node depth with
  | nil =>
      simp only [List.length_nil, Nat.add_zero] at room ⊢
      simp only [List.nil_append]
      rw [writeSpans_cons (by omega) node value last more, Edit.result_ofExcept, readSpans, resolve]
      cases traced : node.trace last with
      | error failure => rfl
      | ok pair =>
          obtain ⟨steps, holder⟩ := pair
          cases nested : holder.nestedDocument last with
          | error failure => simp only [Result.ok_bind, Except.map, nested, Result.error_bind]
          | ok document =>
              simp only [Result.ok_bind, Except.map, nested]
              refine bind_congr fun edited => ?_
              have allowed : holder = .null ∨
                  holder.kind = (Node.text (Yaml.render edited)).kind :=
                .inr (kind_of_nestedDocument nested)
              change _ = (node.writeSpan last (.text (Yaml.render edited))).result
              rw [writeSpan_of_trace segments traced allowed]
              rfl
  | cons span before inductionHypothesis =>
      simp only [List.length_cons] at room ⊢
      simp only [List.cons_append]
      rw [writeSpans_cons (by omega) node value span (by simp), Edit.result_ofExcept,
        readSpans_cons (by omega) node span (by simp), resolve]
      cases traced : node.trace span with
      | error failure => rfl
      | ok pair =>
          obtain ⟨steps, holder⟩ := pair
          cases nested : holder.nestedDocument span with
          | error failure => simp only [Result.ok_bind, Except.map, nested, Result.error_bind]
          | ok outer =>
              have back (edited : Node) :
                  (node.writeSpans bound depth (.text (Yaml.render edited))
                    (span :: (before ++ [last]))).result = (do
                  let changed ← (outer.writeSpans bound (depth + 1) (.text (Yaml.render edited))
                    (before ++ [last])).result
                  return node.placeAt steps (.text (Yaml.render changed))) := by
                rw [writeSpans_cons (by omega) node _ span (by simp), Edit.result_ofExcept, traced]
                simp only [Result.ok_bind, nested]
              have position : depth + (before.length + 1) = depth + 1 + before.length := by omega
              simp only [back, position, Result.ok_bind, Except.map, nested]
              rw [inductionHypothesis (by omega) outer]
              simp only [bind_assoc]

/-- A write at a path of two parts is a read at the first part, a write at the second part in the
document found there, and a write of its text at the first part. -/
theorem write_append {path first rest : Path} {before : List Span} {last : Span} {bound : Nat}
    (split : path.spans = first.spans ++ rest.spans) (ends : first.spans = before ++ [last])
    (segments : last ≠ []) (more : rest.spans ≠ []) (room : path.spans.length - 1 ≤ bound)
    (node value : Node) :
    node.write path value bound = .ofExcept node (do
      let holder ← node.read first bound
      let document ← holder.nestedDocument last
      let edited ← (document.write rest value bound).result
      (node.write first (.text (Yaml.render edited)) bound).result) := by
  have spans : path.spans = before ++ last :: rest.spans := by rw [split, ends]; simp
  have roomAppend : 0 + before.length + rest.spans.length ≤ bound := by
    rw [spans, List.length_append, List.length_cons] at room
    omega
  have inner (document : Node) :
      document.writeSpans bound (0 + before.length + 1) value rest.spans =
        document.write rest value bound := by
    have length : rest.spans.length ≠ 0 := by simpa using more
    exact writeSpans_room (by omega) (by omega) document value
  have unchanged : node.write path value bound =
      .ofExcept node (node.write path value bound).result := by
    rw [write, spans]
    cases before with
    | nil => exact writeSpans_eq_ofExcept bound 0 node value last more
    | cons span before => exact writeSpans_eq_ofExcept bound 0 node value span (by simp)
  rw [unchanged]
  congr 1
  simp only [write, spans, read, ends]
  rw [result_writeSpans_append roomAppend more segments]
  simp only [inner, write]

/-- A write at a path of two parts, each of one or more spans, reads the first part, edits the
document in its text, and writes the text of the edited document at the first part. Each failure
on the way is the failure of the whole and leaves the tree as it was; without one, both writes
succeed with the same tree. -/
theorem write_nested {text : String} {path : Path} {bound : Nat}
    (parsed : Path.parse text = .ok path) (first rest : Path)
    (split : path.spans = first.spans ++ rest.spans) (given : first.spans ≠ [])
    (more : rest.spans ≠ []) (room : path.spans.length - 1 ≤ bound) (node value : Node) :
    let span := first.spans.getLast given
    (∀ failure, node.read first bound = .error failure →
      node.write path value bound = .failed node failure) ∧
    ∀ holder, node.read first bound = .ok holder →
      (holder.kind ≠ .scalar → node.write path value bound =
        .failed node (.kindMismatch span.text .scalar holder.kind)) ∧
      ∀ written, holder.scalarText? = some written →
        (∀ fault, Yaml.parse written = .error fault →
          node.write path value bound = .failed node (.nestedDocument span.text fault)) ∧
        ∀ document, Yaml.parse written = .ok document →
          (∀ failure, (document.write rest value bound).failure? = some failure →
            node.write path value bound = .failed node failure) ∧
          ∀ edited, document.write rest value bound = .done edited →
            ∃ tree, node.write path value bound = .done tree ∧
              node.write first (.text (Yaml.render edited)) bound = .done tree := by
  intro span
  have inhabited := (Path.spans_of_parse parsed).2
  have ends : first.spans = first.spans.dropLast ++ [span] :=
    (List.dropLast_concat_getLast given).symm
  have member : span ∈ path.spans := by
    rw [split]
    exact List.mem_append_left _ (List.getLast_mem given)
  have whole := write_append split ends (inhabited span member) more room node value
  refine ⟨fun failure failed => ?_, fun holder found => ⟨fun container => ?_,
    fun written textual => ⟨fun fault rejected => ?_, fun document accepted => ?_⟩⟩⟩
  · rw [whole, failed, Result.error_bind]
    rfl
  · rw [whole, found, Result.ok_bind, nestedDocument_container container, Result.error_bind]
    rfl
  · rw [whole, found, Result.ok_bind, nestedDocument_rejected textual rejected, Result.error_bind]
    rfl
  · have nested : holder.nestedDocument span = .ok document :=
      nestedDocument_eq_ok_iff.mpr ⟨written, textual, accepted⟩
    rw [found, Result.ok_bind, nested, Result.ok_bind] at whole
    constructor
    · intro failure failed
      have result : (document.write rest value bound).result = .error failure := by
        rw [Edit.result, failed]
      rw [whole, result, Result.error_bind]
      rfl
    · intro edited changed
      have firstInhabited : ∀ span ∈ first.spans, span ≠ [] := fun span member =>
        inhabited span (by rw [split]; exact List.mem_append_left _ member)
      obtain ⟨tree, stored⟩ : ∃ tree,
          node.write first (.text (Yaml.render edited)) bound = .done tree :=
        writeSpans_of_readSpans firstInhabited found (kind_of_nestedDocument nested)
      refine ⟨tree, ?_, stored⟩
      rw [whole, changed, Edit.result_done, Result.ok_bind, stored]
      rfl

/-- A port in a nested document is changed in the text of that document. -/
theorem write_nested_port :
    Path.parse "config|port" = .ok ⟨[[.key "config"], [.key "port"]], "config|port"⟩ ∧
    ∃ tree,
      (Node.mapping [("config", .text "port: 80")]).write
        ⟨[[.key "config"], [.key "port"]], "config|port"⟩ (.number (.whole 81)) 1 = .done tree ∧
      (Node.mapping [("config", .text "port: 80")]).write ⟨[[.key "config"]], "config"⟩
        (.text (Yaml.render (.mapping [("port", .number (.whole 81))]))) 1 = .done tree := by
  have parsed : Path.parse "config|port" =
      .ok ⟨[[.key "config"], [.key "port"]], "config|port"⟩ := by decide +kernel
  refine ⟨parsed, ?_⟩
  obtain ⟨-, reads⟩ := write_nested parsed ⟨[[.key "config"]], "config"⟩ ⟨[[.key "port"]], "port"⟩
    rfl (by decide) (by decide) (by decide : _ ≤ 1) (.mapping [("config", .text "port: 80")])
    (.number (.whole 81))
  obtain ⟨-, texts⟩ := reads (.text "port: 80") (by decide +kernel)
  obtain ⟨-, documents⟩ := texts "port: 80" rfl
  obtain ⟨-, edits⟩ := documents (.mapping [("port", .number (.whole 80))]) (by decide +kernel)
  exact edits (.mapping [("port", .number (.whole 81))]) (by decide +kernel)

end Node

end Graft
