/-
This file describes which child a segment leads to: the segment names a step at a node, and the
child at that step is the one that is located.
-/

import Graft.Path.Read
import Graft.Proofs.Node.Place
import Graft.Proofs.Result

namespace Graft

open Graft.Path (Failure)

namespace Node

/-- The step that a segment names at a node, whether or not a child is there. A predicate names
the first item that satisfies it, or the position past the end if there is none. -/
def address (node : Node) (segment : Segment) : Option Step :=
  match node, segment with
  | .mapping _, .key name => some (.key name)
  | .sequence items, .predicate key value =>
      some (.position (items.findIdx fun item => item.satisfies key value))
  | .sequence _, segment => segment.position?.map .position
  | _, _ => none

/-- The first match is the item at the first position whose item satisfies the predicate. -/
theorem firstMatch?_eq (key value : String) (items : List Node) :
    firstMatch? key value items =
      items[items.findIdx fun item => item.satisfies key value]?.map fun item =>
        (items.findIdx fun item => item.satisfies key value, item) := by
  induction items with
  | nil => rfl
  | cons first rest inductionHypothesis =>
      by_cases satisfied : first.satisfies key value
      · simp [firstMatch?, satisfied, List.findIdx_cons]
      · simp [firstMatch?, satisfied, List.findIdx_cons, inductionHypothesis, Function.comp_def]

/-- A lookup at a named step gives that step with its child. -/
private theorem lookup_eq_ok_iff (node : Node) (named : Step) (failure : Failure)
    {child : Node} {child? : Option Node} {step : Step} (lookup : node.child? named = child?) :
    (match child? with
      | some present => Except.ok (named, present)
      | none => .error failure) = .ok (step, child) ↔
      some named = some step ∧ node.child? step = some child := by
  cases present : child? with
  | none =>
      simp only [reduceCtorEq, Option.some.injEq, false_iff, not_and]
      rintro rfl found
      simp [lookup, present] at found
  | some there =>
      simp only [Except.ok.injEq, Prod.mk.injEq, Option.some.injEq]
      constructor
      · rintro ⟨rfl, rfl⟩
        exact ⟨rfl, lookup.trans present⟩
      · rintro ⟨rfl, found⟩
        exact ⟨rfl, Option.some.inj ((lookup.trans present).symm.trans found)⟩

/-- A segment locates the child at the step that it names. -/
theorem locate_eq_ok_iff {node child : Node} {segment : Segment} {step : Step} :
    node.locate segment = .ok (step, child) ↔
      node.address segment = some step ∧ node.child? step = some child := by
  cases node with
  | mapping entries =>
      cases segment with
      | key name => exact lookup_eq_ok_iff (.mapping entries) (.key name) _ rfl
      | index _ | predicate _ _ => simp [locate, address]
  | sequence items =>
      cases segment with
      | key name =>
          cases named : (Segment.key name).position? with
          | none => simp [locate, address, named]
          | some index =>
              simp only [locate, address, named, Option.map_some]
              exact lookup_eq_ok_iff (.sequence items) (.position index) _ rfl
      | index position => exact lookup_eq_ok_iff (.sequence items) (.position position) _ rfl
      | predicate key value =>
          let first := items.findIdx fun item => item.satisfies key value
          rw [locate, firstMatch?_eq]
          cases present : items[first]? with
          | none => exact lookup_eq_ok_iff (.sequence items) (.position first) _ present
          | some item => exact lookup_eq_ok_iff (.sequence items) (.position first) .empty present
  | text _ | number _ | boolean _ | null => cases segment <;> simp [locate, address]

/-- What is located is a child. -/
theorem child?_of_locate {node child : Node} {segment : Segment} {step : Step}
    (located : node.locate segment = .ok (step, child)) : node.child? step = some child :=
  (locate_eq_ok_iff.mp located).2

/-- A span goes on through the child that its first segment locates. -/
theorem trace_cons_eq_ok_iff {node target : Node} {segment : Segment} {rest : Span}
    {steps : List Step} :
    node.trace (segment :: rest) = .ok (steps, target) ↔
      ∃ step child others, node.locate segment = .ok (step, child) ∧
        child.trace rest = .ok (others, target) ∧ steps = step :: others := by
  rw [trace, Result.bind_eq_ok]
  constructor
  · rintro ⟨⟨step, child⟩, located, given⟩
    obtain ⟨⟨others, last⟩, traced, same⟩ := Result.bind_eq_ok.mp given
    cases same
    exact ⟨step, child, others, located, traced, rfl⟩
  · rintro ⟨step, child, others, located, traced, rfl⟩
    exact ⟨(step, child), located, Result.bind_eq_ok.mpr ⟨(others, target), traced, rfl⟩⟩

/-- The steps of a span lead to its target. -/
theorem at?_of_trace {node target : Node} {span : Span} {steps : List Step}
    (traced : node.trace span = .ok (steps, target)) : node.at? steps = some target := by
  induction span generalizing node steps with
  | nil =>
      cases traced
      rfl
  | cons segment rest inductionHypothesis =>
      obtain ⟨step, child, others, located, restTraced, rfl⟩ := trace_cons_eq_ok_iff.mp traced
      rw [at?, child?_of_locate located]
      exact inductionHypothesis restTraced

/-- A span resolves to the target of its trace. -/
theorem resolve_eq_ok_iff {node target : Node} {span : Span} :
    node.resolve span = .ok target ↔ ∃ steps, node.trace span = .ok (steps, target) := by
  rw [resolve]
  cases traced : node.trace span with
  | error failure => simp [Except.map]
  | ok pair =>
      obtain ⟨steps, last⟩ := pair
      simp [Except.map]

end Node

end Graft
