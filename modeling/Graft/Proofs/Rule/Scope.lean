/-
This file shows that a field with a scope is written fully or not at all: what can be read at it
can also be replaced there, and nothing else changes.
-/

import Graft.Path.Parse
import Graft.Proofs.Path.Halt
import Graft.Proofs.Path.Spans
import Graft.Proofs.Rule.Field

namespace Graft

open Rule (Cause)

namespace Node

/-- The second tree is the first one with the node that the spans lead to exchanged. In one
document no other node changes, and none is created. If a document is nested in a scalar, the text
of that scalar becomes the text of the document with the node exchanged in it. -/
def Exchanged (old new : Node) : List Span → Node → Node → Prop
  | [], _, _ => False
  | [span], before, after =>
      ∃ steps, before.trace span = .ok (steps, old) ∧ Replaced old new steps before after
  | span :: next :: rest, before, after =>
      ∃ steps holder written document edited,
        before.trace span = .ok (steps, holder) ∧ holder.scalarText? = some written ∧
        Yaml.parse written = .ok document ∧
        Replaced holder (.text (Yaml.render edited)) steps before after ∧
        Exchanged old new (next :: rest) document edited

variable {bound depth : Nat} {node old new : Node} {spans : List Span}

/-- A write of a value of the kind that is read at some spans exchanges the two. -/
theorem exchanged_of_writeSpans {tree : Node} (inhabited : ∀ span ∈ spans, span ≠ [])
    (read : node.readSpans bound depth spans = .ok old) (kinds : old.kind = new.kind)
    (written : node.writeSpans bound depth new spans = .done tree) :
    Exchanged old new spans node tree := by
  induction spans generalizing node depth tree with
  | nil => cases read
  | cons span rest inductionHypothesis =>
      cases rest with
      | nil =>
          obtain ⟨steps, traced⟩ := resolve_eq_ok_iff.mp read
          have stored : node.writeSpan span new = .done (node.placeAt steps new) :=
            writeSpan_of_trace (inhabited span (by simp)) traced (.inr kinds)
          cases written.symm.trans stored
          exact ⟨steps, traced, replaced_placeAt (at?_of_trace traced) new⟩
      | cons next rest =>
          obtain ⟨_, steps, holder, document, traced, nested, restRead⟩ :=
            (readSpans_cons_eq_ok_iff (by simp)).mp read
          obtain ⟨_, _, _, _, edited, sameTrace, sameNested, changed, rfl⟩ :=
            (writeSpans_cons_eq_done_iff (by simp)).mp written
          cases traced.symm.trans sameTrace
          cases nested.symm.trans sameNested
          obtain ⟨text, textual, accepted⟩ := nestedDocument_eq_ok_iff.mp nested
          have below := inductionHypothesis
            (fun span member => inhabited span (List.mem_cons_of_mem _ member)) restRead changed
          exact ⟨steps, holder, text, document, edited, traced, textual, accepted,
            replaced_placeAt (at?_of_trace traced) _, below⟩

/-- A write of a value of the kind that is read at some spans leaves the tree as it was if it
fails, which takes a span without segments. -/
theorem unchanged_of_readSpans {left : Node} {failure : Path.Failure}
    (read : node.readSpans bound depth spans = .ok old) (kinds : old.kind = new.kind)
    (failed : node.writeSpans bound depth new spans = .failed left failure) : left = node := by
  cases spans with
  | nil => cases read
  | cons span rest =>
      by_cases more : rest = []
      · subst more
        by_cases empty : span = []
        · subst empty
          cases failed
          rfl
        · have inhabited : ∀ other ∈ [span], other ≠ [] := by simpa using empty
          obtain ⟨tree, written⟩ := writeSpans_of_readSpans inhabited read kinds
          cases written.symm.trans failed
      · exact unchanged_of_nested more failed

end Node

namespace TargetField

variable {field : TargetField} {scope : Pattern} {bound : Nat} {value root : Node} {label : String}

/-- What a field with a scope gets is a text in place of the scalar that is there. -/
theorem Gives.spliced_of_scope {given : Node} (narrowed : field.scope? = some scope)
    (gives : field.Gives bound value root given) :
    ∃ current, root.read field.path bound = .ok current ∧ current.kind = given.kind := by
  cases gives with
  | whole entire => cases entire.symm.trans narrowed
  | @spliced _ current text _ _ found textual _ _ =>
      have scalar : current.kind = .scalar := by
        by_contra container
        rw [Node.scalarText?_eq_none_iff.mpr container] at textual
        cases textual
      exact ⟨current, found, scalar⟩

/-- A field with a scope that fails leaves the tree as it was. -/
theorem Fails.unchanged_of_scope {left : Node} {cause : Cause}
    (narrowed : field.scope? = some scope)
    (fails : field.Fails bound value label root left cause) : left = root := by
  cases fails with
  | refused _ => rfl
  | unwritten gives failed =>
      obtain ⟨current, found, kinds⟩ := gives.spliced_of_scope narrowed
      exact Node.unchanged_of_readSpans found kinds failed

/-- A value that a field with a scope gets can be written there, and the write exchanges it with
the scalar that was read. -/
theorem Gives.exchanged_of_scope {given : Node}
    (inhabited : ∀ span ∈ field.path.spans, span ≠ []) (narrowed : field.scope? = some scope)
    (gives : field.Gives bound value root given) :
    ∃ current tree, root.read field.path bound = .ok current ∧
      field.write bound value label root = ⟨tree, none⟩ ∧
      Node.Exchanged current given field.path.spans root tree := by
  obtain ⟨current, found, kinds⟩ := gives.spliced_of_scope narrowed
  obtain ⟨tree, written⟩ := Node.writeSpans_of_readSpans inhabited found kinds
  exact ⟨current, tree, found, gives.write_eq written,
    Node.exchanged_of_writeSpans inhabited found kinds written⟩

/-- A field with a scope is written fully or not at all. If it fails, the tree is left as it was.
At a path that was read from text it fails exactly when nothing can be read there, one of the two
values is no scalar, or the scope matches nowhere. Once the text there has been read and matched,
the write succeeds, and all that it changes is the scalar that was read, which becomes the text
with the matches replaced. -/
theorem write_scoped (field : TargetField) (narrowed : field.scope? = some scope) (bound : Nat)
    (value : Node) (label : String) (root : Node) :
    (∀ cause, (field.write bound value label root).cause? = some cause →
      (field.write bound value label root).root = root) ∧
    ∀ text, Path.parse text = .ok field.path →
      (∀ cause, (field.write bound value label root).cause? = some cause ↔
        field.Refuses bound value label root cause) ∧
      ∀ current found replacement, root.read field.path bound = .ok current →
        current.scalarText? = some found → value.scalarText? = some replacement →
        scope.isMatch found = true →
        ∃ tree, field.write bound value label root = ⟨tree, none⟩ ∧
          Node.Exchanged current (.text (scope.replaceAll found replacement))
            field.path.spans root tree := by
  refine ⟨fun cause failed => ?_, fun text parsed => ⟨fun cause => ⟨fun failed => ?_, ?_⟩, ?_⟩⟩
  · rcases field.written_or_fails bound value label root with
      ⟨given, tree, gives, written⟩ | ⟨left, other, fails⟩
    · rw [gives.write_eq written] at failed
      cases failed
    · rw [fails.write_eq]
      exact fails.unchanged_of_scope narrowed
  · rcases field.gives_or_refuses bound value label root with ⟨given, gives⟩ | ⟨other, refuses⟩
    · have inhabited := (Path.spans_of_parse parsed).2
      obtain ⟨_, tree, -, written, -⟩ := gives.exchanged_of_scope inhabited narrowed
      rw [written] at failed
      cases failed
    · have halted : field.write bound value label root = ⟨root, some other⟩ :=
        Fails.write_eq (.refused refuses)
      rw [halted] at failed
      obtain rfl := Option.some.inj failed
      exact refuses
  · intro refuses
    rw [Fails.write_eq (.refused refuses)]
  · intro current found replacement read textual given matched
    have gives : field.Gives bound value root (.text (scope.replaceAll found replacement)) :=
      .spliced narrowed read textual given matched
    have inhabited := (Path.spans_of_parse parsed).2
    obtain ⟨same, tree, sameRead, written, exchanged⟩ :=
      gives.exchanged_of_scope inhabited narrowed
    cases read.symm.trans sameRead
    exact ⟨tree, written, exchanged⟩

/-- The end of a port is replaced in a nested document, in an item that a predicate finds. The
port becomes a text. -/
theorem write_scoped_port :
    let root : Node := .mapping [("config", .text "ports:\n- name: http\n  port: 8080\n")]
    ∃ path scope tree,
      Path.parse "config|ports[name=http].port" = .ok path ∧ Pattern.parse "80$" = .ok scope ∧
      write ⟨path, some scope⟩ 1 (.number (.whole 90)) "Service/web" root = ⟨tree, none⟩ ∧
      Node.Exchanged (.number (.whole 8080)) (.text "8090") path.spans root tree := by
  intro root
  let path : Path := ⟨[[.key "config"], [.key "ports", .predicate "name" "http", .key "port"]],
    "config|ports[name=http].port"⟩
  have parsed : Path.parse "config|ports[name=http].port" = .ok path := by decide +kernel
  have read : root.read path 1 = .ok (.number (.whole 8080)) := by decide +kernel
  let scope : Pattern := ⟨"80$",
    ⟨#[.accept, .check .textStop 0, .take (.singleton '0') 1, .take (.singleton '8') 2], 3⟩, []⟩
  have patternParsed : Pattern.parse "80$" = .ok scope := by rfl
  have characters : "8080".toList.toArray = #['8', '0', '8', '0'] := rfl
  -- The text is searched step by step, since the places that were visited are kept in a hashed set.
  have first : Pattern.find? scope.program #['8', '0', '8', '0'] 0 = some ⟨2, 4, []⟩ := by
    simp [scope, Pattern.find?, Pattern.findFrom, Pattern.explore, Pattern.exploreFuel,
      Pattern.Thread.following, Pattern.holdsAt, Pattern.Boundary.holds, CharacterSet.contains,
      CharacterSet.singleton, CharacterSet.within]
  have later : Pattern.find? scope.program #['8', '0', '8', '0'] 4 = none := by
    simp [scope, Pattern.find?, Pattern.findFrom, Pattern.explore, Pattern.exploreFuel,
      Pattern.Thread.following]
  have matched : scope.isMatch "8080" = true := by
    rw [Pattern.isMatch, characters, first]
    rfl
  have replaced : scope.replaceAll "8080" "90" = "8090" := by
    have found : scope.matchesIn #['8', '0', '8', '0'] = [⟨2, 4, []⟩] := by
      simp [Pattern.matchesIn, Pattern.matchesFrom, first, later]
    simp only [Pattern.replaceAll, characters, found]
    decide +kernel
  obtain ⟨-, followed⟩ := write_scoped ⟨path, some scope⟩ rfl 1 (.number (.whole 90))
    "Service/web" root
  obtain ⟨-, splices⟩ := followed _ parsed
  obtain ⟨tree, written, exchanged⟩ := splices _ "8080" "90" read rfl rfl matched
  rw [replaced] at exchanged
  exact ⟨path, scope, tree, parsed, patternParsed, written, exchanged⟩

end TargetField

end Graft
