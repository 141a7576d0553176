/-
This file describes the writes that fail: how far they come, and what they leave of the tree.
-/

import Graft.Path.Parse
import Graft.Proofs.Node.Within
import Graft.Proofs.Path.Nested

namespace Graft

open Graft.Path (Failure)

namespace Edit

/-- A result without partial changes fails with the tree from before. -/
theorem ofExcept_eq_failed_iff {before after : Node} {result : Except Failure Node}
    {failure : Failure} :
    ofExcept before result = failed after failure ↔ result = .error failure ∧ after = before := by
  cases result <;> simp [ofExcept, done, failed, and_comm, eq_comm]

/-- An edit is done, or it has failed with a cause. -/
theorem done_or_failed (edit : Edit) :
    edit = done edit.tree ∨ ∃ failure, edit = failed edit.tree failure := by
  obtain ⟨tree, failure?⟩ := edit
  cases failure? with
  | none => exact .inl rfl
  | some failure => exact .inr ⟨failure, rfl⟩

end Edit

namespace Node

/-- The ways in which a write along a span fails, from the tree before to the tree that is left:
there are no segments, the value cannot be stored, a segment leads nowhere, or the write fails
below the child that a segment leads to. -/
inductive Halts (value : Node) (failure : Failure) : Node → Span → Node → Prop where
  | empty {node : Node} (cause : failure = .empty) : Halts value failure node [] node
  | refused {node : Node} {segment : Segment}
      (failed : node.assign segment value = .error failure) :
      Halts value failure node [segment] node
  | blocked {node : Node} {segment next : Segment} {rest : Span}
      (failed : node.advance segment next = .error failure) :
      Halts value failure node (segment :: next :: rest) node
  | through {node child left : Node} {segment next : Segment} {rest : Span} {step : Step}
      (advances : Advances next node segment step child)
      (below : Halts value failure child (next :: rest) left) :
      Halts value failure node (segment :: next :: rest) (node.place step left)

/-- A write along a span fails exactly in one of the four ways. -/
theorem writeSegments_eq_failed_iff {node value tree : Node} {span : Span} {failure : Failure} :
    node.writeSegments value span = .failed tree failure ↔ Halts value failure node span tree := by
  constructor
  · intro failed
    induction span generalizing node tree with
    | nil =>
        cases failed
        exact .empty rfl
    | cons segment rest inductionHypothesis =>
        cases rest with
        | nil =>
            rw [writeSegments] at failed
            obtain ⟨refused, rfl⟩ := Edit.ofExcept_eq_failed_iff.mp failed
            exact .refused refused
        | cons next rest =>
            rw [writeSegments] at failed
            cases advanced : node.advance segment next with
            | error cause =>
                rw [advanced] at failed
                cases failed
                exact .blocked advanced
            | ok pair =>
                obtain ⟨step, child⟩ := pair
                rw [advanced] at failed
                obtain ⟨same, halted⟩ := Edit.mk.inj failed
                have below : child.writeSegments value (next :: rest) =
                    .failed (child.writeSegments value (next :: rest)).tree failure := by
                  rw [Edit.failed, ← halted]
                rw [← same]
                exact .through (advance_eq_ok_iff.mp advanced) (inductionHypothesis below)
  · intro halts
    induction halts with
    | empty cause => rw [cause, writeSegments]
    | refused failed =>
        rw [writeSegments, failed]
        rfl
    | blocked failed => rw [writeSegments, failed]
    | through advances _ inductionHypothesis =>
        simp only [writeSegments, advance_eq_ok_iff.mpr advances, inductionHypothesis]
        rfl

/-- A write in one document fails exactly in one of these ways from its root. -/
theorem writeSpan_eq_failed_iff {node value tree : Node} {segment : Segment} {rest : Span}
    {failure : Failure} :
    node.writeSpan (segment :: rest) value = .failed tree failure ↔
      Halts value failure (node.rooted segment) (segment :: rest) tree :=
  writeSegments_eq_failed_iff

/-- A write that fails below a node keeps what the node holds. -/
theorem Halts.within {value node tree : Node} {span : Span} {failure : Failure}
    (halts : Halts value failure node span tree) : Within node tree := by
  induction halts with
  | empty _ => exact .refl _
  | refused _ => exact .refl _
  | blocked _ => exact .refl _
  | through advances _ inductionHypothesis =>
      refine Within.place ?_
      -- The child was there, or it took the place of a null or of nothing.
      rcases advances.child?_cases with kept | null | missing
      · rw [kept]
        exact inductionHypothesis
      · rw [null]
        exact .null _
      · rw [missing]
        exact .null _

/-- An empty mapping takes a value under any chain of keys. -/
theorem route_of_keys (value : Node) (name : String) (names : List String) :
    ∃ steps tree, Route value (.mapping []) ((name :: names).map .key) steps tree := by
  induction names generalizing name with
  | nil => exact ⟨_, _, .last (.added rfl)⟩
  | cons next names inductionHypothesis =>
      obtain ⟨steps, tree, route⟩ := inductionHypothesis next
      exact ⟨_, _, .through (.added rfl) route⟩

/-- A write at a chain of keys does not fail in an empty mapping. -/
theorem not_halts_of_keys {value tree : Node} {failure : Failure} {name : String}
    {names : List String} :
    ¬ Halts value failure (.mapping []) ((name :: names).map .key) tree := by
  intro halts
  obtain ⟨steps, changed, route⟩ := route_of_keys value name names
  have written := writeSegments_eq_done_iff.mpr ⟨steps, route⟩
  cases written.symm.trans (writeSegments_eq_failed_iff.mpr halts)

/-- A write at a chain of keys that fails leaves the tree as it was: what it creates is an empty
mapping, below which it succeeds. -/
theorem Halts.unchanged_of_keys {value node tree : Node} {failure : Failure}
    {names : List String} (halts : Halts value failure node (names.map .key) tree) :
    tree = node := by
  generalize spelled : names.map Segment.key = span at halts
  induction halts generalizing names with
  | empty _ => rfl
  | refused _ => rfl
  | blocked _ => rfl
  | @through node child left segment next rest step advances below inductionHypothesis =>
      obtain ⟨name, others, rfl, rfl, spelledRest⟩ := List.map_eq_cons_iff.mp spelled
      obtain ⟨second, others, rfl, rfl, rfl⟩ := List.map_eq_cons_iff.mp spelledRest
      cases advances with
      | kept _ found _ =>
          have keys : (second :: others).map Segment.key = .key second :: others.map .key := rfl
          rw [inductionHypothesis keys]
          exact place_child found
      | filled _ _ => exact absurd below not_halts_of_keys
      | added _ => exact absurd below not_halts_of_keys

/-- A write through a nested document that fails leaves the tree as it was. -/
theorem unchanged_of_nested {bound depth : Nat} {node value tree : Node} {span : Span}
    {rest : List Span} {failure : Failure} (more : rest ≠ [])
    (failed : node.writeSpans bound depth value (span :: rest) = .failed tree failure) :
    tree = node := by
  rw [writeSpans_eq_ofExcept bound depth node value span more] at failed
  exact (Edit.ofExcept_eq_failed_iff.mp failed).2

/-- A write in one document that fails keeps what the tree holds. -/
theorem within_of_writeSpan {node value tree : Node} {span : Span} {failure : Failure}
    (failed : node.writeSpan span value = .failed tree failure) : Within node tree := by
  cases span with
  | nil =>
      cases failed
      exact .refl node
  | cons segment rest =>
      have halts := writeSpan_eq_failed_iff.mp failed
      by_cases null : node = .null
      · rw [null]
        exact .null tree
      · rw [rooted_of_ne_null null] at halts
        exact halts.within

/-- A write that fails loses nothing: each scalar is the same, mappings keep their keys in their
order and sequences their items, and what is new comes after them. Only a null may have become
something else. -/
theorem write_failed_within {path : Path} {bound : Nat} {node value tree : Node}
    {failure : Failure} (failed : node.write path value bound = .failed tree failure) :
    Within node tree := by
  rw [write] at failed
  cases spans : path.spans with
  | nil =>
      rw [spans] at failed
      cases failed
      exact .refl node
  | cons span rest =>
      rw [spans] at failed
      by_cases more : rest = []
      · subst more
        exact within_of_writeSpan failed
      · rw [unchanged_of_nested more failed]
        exact .refl node

/-- A predicate that can add no item stops a write after a null has become a mapping. -/
theorem write_failed_within_null :
    ∃ path failure, Path.parse "spec.items[name=app][=x]" = .ok path ∧
      (Node.mapping [("spec", .null), ("kind", .text "Pod")]).write path (.text "y") 16 =
        .failed (.mapping [("spec", .mapping [("items", .sequence [])]), ("kind", .text "Pod")])
          failure ∧
      Within (.mapping [("spec", .null), ("kind", .text "Pod")])
        (.mapping [("spec", .mapping [("items", .sequence [])]), ("kind", .text "Pod")]) := by
  let path : Path :=
    ⟨[[.key "spec", .key "items", .predicate "name" "app", .predicate "" "x"]],
      "spec.items[name=app][=x]"⟩
  have parsed : Path.parse "spec.items[name=app][=x]" = .ok path := by decide +kernel
  have failed : (Node.mapping [("spec", .null), ("kind", .text "Pod")]).write path (.text "y") 16 =
      .failed (.mapping [("spec", .mapping [("items", .sequence [])]), ("kind", .text "Pod")])
        (.noMatch "[name=app]") := by decide +kernel
  exact ⟨path, _, parsed, failed, write_failed_within failed⟩

/-- A write that fails in a nested document, or in one document at a chain of keys, leaves the
tree as it was. -/
theorem write_failed_unchanged {path : Path} {bound : Nat} {node value tree : Node}
    {failure : Failure}
    (shape : 2 ≤ path.spans.length ∨ ∃ names : List String, path.spans = [names.map .key])
    (failed : node.write path value bound = .failed tree failure) : tree = node := by
  rw [write] at failed
  rcases shape with nested | ⟨names, single⟩
  · have given : 0 < path.spans.length := by omega
    obtain ⟨span, rest, spans⟩ := List.exists_cons_of_length_pos given
    have more : rest ≠ [] := by
      rintro rfl
      simp [spans] at nested
    rw [spans] at failed
    exact unchanged_of_nested more failed
  · rw [single] at failed
    cases names with
    | nil =>
        cases failed
        rfl
    | cons name names =>
        have halts :
            Halts value failure (node.rooted (.key name)) ((name :: names).map .key) tree :=
          writeSpan_eq_failed_iff.mp failed
        by_cases null : node = .null
        · subst null
          exact absurd halts not_halts_of_keys
        · rw [rooted_of_ne_null null] at halts
          exact halts.unchanged_of_keys

/-- A write at a chain of keys stops at a text, and a write in a nested document stops after a null
has become a sequence there. Both leave all nulls. -/
theorem write_failed_unchanged_nulls :
    let before : Node := .mapping [("size", .null), ("image", .text "app"),
      ("config", .text "items: ~")]
    (∃ path tree failure, Path.parse "image.tag" = .ok path ∧
      before.write path (.text "2") 16 = .failed tree failure ∧ tree = before) ∧
    ∃ path tree failure, Path.parse "config|items[name=app][=x]" = .ok path ∧
      before.write path (.text "2") 16 = .failed tree failure ∧ tree = before := by
  intro before
  let keys : Path := ⟨[[.key "image", .key "tag"]], "image.tag"⟩
  let nested : Path :=
    ⟨[[.key "config"], [.key "items", .predicate "name" "app", .predicate "" "x"]],
      "config|items[name=app][=x]"⟩
  have keysParsed : Path.parse "image.tag" = .ok keys := by decide +kernel
  have nestedParsed : Path.parse "config|items[name=app][=x]" = .ok nested := by decide +kernel
  have keysFailed : before.write keys (.text "2") 16 =
      .failed before (.kindMismatch "image" .mapping .scalar) := by decide +kernel
  have nestedFailed : before.write nested (.text "2") 16 =
      .failed before (.noMatch "[name=app]") := by decide +kernel
  exact ⟨⟨keys, _, _, keysParsed, keysFailed,
      write_failed_unchanged (.inr ⟨["image", "tag"], rfl⟩) keysFailed⟩,
    nested, _, _, nestedParsed, nestedFailed,
      write_failed_unchanged (.inl (by decide)) nestedFailed⟩

end Node

end Graft
