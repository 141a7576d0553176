/-
This file describes what a target does to a list of resources: each accepted resource gets its
fields on its own, and a field that fails leaves the resources after it as they were.
-/

import Graft.Proofs.Rule.Field
import Graft.Proofs.Selector.Selection
import Mathlib.Data.List.Forall2

namespace Graft

open Rule (Cause)

namespace Target

/-- What a target does to one resource: a resource that is not accepted stays, and an accepted one
gets the fields in order. -/
inductive Changes (target : Target) (bound : Nat) (value : Node) : Resource → Resource → Prop where
  | other {resource : Resource} (refused : target.selected.accepts resource = .ok false) :
      Changes target bound value resource resource
  | written {resource : Resource} {tree : Node}
      (accepted : target.selected.accepts resource = .ok true)
      (written : Written bound value target.fields resource.root tree) :
      Changes target bound value resource ⟨tree⟩

/-- A target fails at an accepted resource when one of the fields fails after those before it were
written. What that field left is the resource that is left. -/
inductive Fails (target : Target) (bound : Nat) (value : Node) (resource : Resource) :
    Resource → Cause → Prop where
  | field {earlier later : List TargetField} {field : TargetField} {reached left : Node}
      {cause : Cause} (accepted : target.selected.accepts resource = .ok true)
      (fields : target.fields = earlier ++ field :: later)
      (written : Written bound value earlier resource.root reached)
      (fails : field.Fails bound value resource.text reached left cause) :
      Fails target bound value resource ⟨left⟩ cause

/-- A target stops when a resource cannot be checked, which leaves all resources as they were, or
when it fails at one of them. Those before it are changed then and those after it are not. -/
inductive Stops (target : Target) (bound : Nat) (value : Node) :
    List Resource → List Resource → Cause → Prop where
  | unchecked {before : List Resource} {failure : Selector.Failure}
      (failed : target.selected.marks before = .error failure) :
      Stops target bound value before before (.selection failure)
  | written {front changed back : List Resource} {resource left : Resource} {marks : List Bool}
      {cause : Cause} (marked : target.selected.marks (front ++ resource :: back) = .ok marks)
      (changes : List.Forall₂ (target.Changes bound value) front changed)
      (fails : target.Fails bound value resource left cause) :
      Stops target bound value (front ++ resource :: back) (changed ++ left :: back) cause

variable {target : Target} {bound : Nat} {value : Node}

/-- A resource that is changed was checked. -/
theorem Changes.checked {resource changed : Resource}
    (changes : target.Changes bound value resource changed) :
    ∃ accepted, target.selected.accepts resource = .ok accepted := by
  cases changes with
  | other refused => exact ⟨false, refused⟩
  | written accepted _ => exact ⟨true, accepted⟩

/-- Resources can all be changed exactly when each of them can. -/
theorem exists_changes_iff {before : List Resource} :
    (∃ after, List.Forall₂ (target.Changes bound value) before after) ↔
      ∀ resource ∈ before, ∃ changed, target.Changes bound value resource changed := by
  induction before with
  | nil => exact ⟨fun _ => by simp, fun _ => ⟨[], .nil⟩⟩
  | cons first rest inductionHypothesis =>
      rw [List.forall_mem_cons, ← inductionHypothesis]
      constructor
      · rintro ⟨_, _ | ⟨changes, others⟩⟩
        exact ⟨⟨_, changes⟩, _, others⟩
      · rintro ⟨⟨changed, changes⟩, after, others⟩
        exact ⟨changed :: after, .cons changes others⟩

/-- Resources that are changed have marks. -/
theorem exists_marks_of_changes {before after : List Resource}
    (changes : List.Forall₂ (target.Changes bound value) before after) :
    ∃ marks, target.selected.marks before = .ok marks := by
  refine Matcher.exists_marks_iff.mpr fun resource member => ?_
  obtain ⟨changed, single⟩ := exists_changes_iff.mp ⟨after, changes⟩ resource member
  exact single.checked

/-- After resources that are changed the run over the resources goes on with the others. -/
theorem writeMarked_append {front changed : List Resource}
    (changes : List.Forall₂ (target.Changes bound value) front changed) {back : List Resource}
    {marks : List Bool} (marked : target.selected.marks (front ++ back) = .ok marks) :
    ∃ others, target.selected.marks back = .ok others ∧
      writeMarked target.fields bound value marks (front ++ back) =
        (changed ++ (writeMarked target.fields bound value others back).1,
          (writeMarked target.fields bound value others back).2) := by
  induction changes generalizing marks with
  | nil => exact ⟨marks, marked, rfl⟩
  | cons first _ inductionHypothesis =>
      rw [List.cons_append] at marked ⊢
      obtain ⟨accepted, rest, checked, restMarked, rfl⟩ := Matcher.marks_cons_eq_ok_iff.mp marked
      obtain ⟨others, othersMarked, run⟩ := inductionHypothesis restMarked
      refine ⟨others, othersMarked, ?_⟩
      -- The mark tells what the selector says of the resource before any write.
      cases first with
      | other refused =>
          cases checked.symm.trans refused
          rw [writeMarked, run, List.cons_append]
      | written taken written =>
          cases checked.symm.trans taken
          rw [writeMarked, written.writeFields_eq, run, List.cons_append]

/-- A target that changes all resources leaves the changed ones. -/
theorem write_eq_of_changes {before after : List Resource}
    (changes : List.Forall₂ (target.Changes bound value) before after) :
    target.write bound value before = (after, none) := by
  obtain ⟨marks, marked⟩ := exists_marks_of_changes changes
  have whole : target.selected.marks (before ++ []) = .ok marks := by
    rw [List.append_nil]
    exact marked
  obtain ⟨others, othersMarked, run⟩ := writeMarked_append changes whole
  cases othersMarked
  rw [write, marked]
  calc writeMarked target.fields bound value marks before
      = writeMarked target.fields bound value marks (before ++ []) := by rw [List.append_nil]
    _ = (after ++ [], none) := run
    _ = (after, none) := by rw [List.append_nil]

/-- A target fails at accepted resources only. -/
theorem Fails.accepted {resource left : Resource} {cause : Cause}
    (fails : target.Fails bound value resource left cause) :
    target.selected.accepts resource = .ok true := by
  cases fails with
  | field accepted _ _ _ => exact accepted

/-- A field that fails is the end of the fields of its resource. -/
theorem Fails.writeFields_eq {resource left : Resource} {cause : Cause}
    (fails : target.Fails bound value resource left cause) :
    writeFields bound value resource.text target.fields resource.root =
      ⟨left.root, some cause⟩ := by
  obtain ⟨_, fields, written, fails⟩ := fails
  rw [fields, written.writeFields_eq_of_fails fails]

/-- A target that stops leaves its resources with the cause. -/
theorem Stops.write_eq {before after : List Resource} {cause : Cause}
    (stops : target.Stops bound value before after cause) :
    target.write bound value before = (after, some cause) := by
  cases stops with
  | unchecked failed => rw [write, failed]
  | @written front changed back resource left marks cause marked changes fails =>
      obtain ⟨others, othersMarked, run⟩ := writeMarked_append changes marked
      obtain ⟨accepted, rest, checked, _, rfl⟩ := Matcher.marks_cons_eq_ok_iff.mp othersMarked
      cases checked.symm.trans fails.accepted
      rw [writeMarked, fails.writeFields_eq] at run
      rw [write, marked]
      exact run

/-- A checked resource is changed, or the target fails at it. -/
theorem changes_or_fails {resource : Resource} {accepted : Bool}
    (checked : target.selected.accepts resource = .ok accepted) (bound : Nat) (value : Node) :
    (∃ changed, target.Changes bound value resource changed) ∨
      ∃ left cause, target.Fails bound value resource left cause := by
  cases accepted with
  | false => exact .inl ⟨resource, .other checked⟩
  | true =>
      rcases written_or_fails bound value resource.text target.fields resource.root with
        ⟨tree, written⟩ | ⟨_, _, _, _, left, cause, fields, written, fails⟩
      · exact .inl ⟨⟨tree⟩, .written checked written⟩
      · exact .inr ⟨⟨left⟩, cause, .field checked fields written fails⟩

/-- Resources with marks are all changed, or the target fails at one of them after those before it
were changed. -/
theorem all_changes_or_fails {resources : List Resource} {marks : List Bool}
    (marked : target.selected.marks resources = .ok marks) (bound : Nat) (value : Node) :
    (∃ after, List.Forall₂ (target.Changes bound value) resources after) ∨
      ∃ front resource back changed left cause, resources = front ++ resource :: back ∧
        List.Forall₂ (target.Changes bound value) front changed ∧
        target.Fails bound value resource left cause := by
  induction resources generalizing marks with
  | nil => exact .inl ⟨[], .nil⟩
  | cons first rest inductionHypothesis =>
      obtain ⟨accepted, others, checked, restMarked, rfl⟩ :=
        Matcher.marks_cons_eq_ok_iff.mp marked
      rcases changes_or_fails checked bound value with
        ⟨firstChanged, firstChanges⟩ | ⟨left, cause, fails⟩
      · rcases inductionHypothesis restMarked with
          ⟨after, changes⟩ | ⟨front, resource, back, changed, left, cause, rfl, changes, fails⟩
        · exact .inl ⟨firstChanged :: after, .cons firstChanges changes⟩
        · exact .inr ⟨first :: front, resource, back, firstChanged :: changed, left, cause, rfl,
            .cons firstChanges changes, fails⟩
      · exact .inr ⟨[], first, rest, [], left, cause, rfl, .nil, fails⟩

/-- A target changes all resources or stops. -/
theorem changes_or_stops (target : Target) (bound : Nat) (value : Node) (before : List Resource) :
    (∃ after, List.Forall₂ (target.Changes bound value) before after) ∨
      ∃ after cause, target.Stops bound value before after cause := by
  cases marked : target.selected.marks before with
  | error failure => exact .inr ⟨before, _, .unchecked marked⟩
  | ok marks =>
      rcases all_changes_or_fails marked bound value with
        changed | ⟨front, resource, back, changed, left, cause, rfl, changes, fails⟩
      · exact .inl changed
      · exact .inr ⟨_, cause, .written marked changes fails⟩

end Target

end Graft
