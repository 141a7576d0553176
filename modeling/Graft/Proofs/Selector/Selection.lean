/-
This file describes which of several resources a matcher picks: the only one that it accepts, if
each of them can be checked. The order of the resources has no part in that.
-/

import Graft.Proofs.Result
import Graft.Selector

namespace Graft.Matcher

variable {selected : Matcher} {resources : List Resource} {resource : Resource}

/-- Without conditions a resource is accepted exactly when the single texts agree. -/
theorem accepts_eq_scalarsAgree (noLabels : selected.labels = none)
    (noAnnotations : selected.annotations = none) (resource : Resource) :
    selected.accepts resource = .ok (selected.scalarsAgree resource) := by
  rw [accepts, noLabels, noAnnotations]
  cases selected.scalarsAgree resource <;> rfl

/-- The marks of resources start with whether the first of them is accepted. -/
theorem marks_cons_eq_ok_iff {rest : List Resource} {marks : List Bool} :
    selected.marks (resource :: rest) = .ok marks ↔
      ∃ accepted others, selected.accepts resource = .ok accepted ∧
        selected.marks rest = .ok others ∧ marks = accepted :: others := by
  rw [Matcher.marks, Result.bind_eq_ok]
  constructor
  · rintro ⟨accepted, checked, marked⟩
    obtain ⟨others, restMarked, same⟩ := Result.bind_eq_ok.mp marked
    cases same
    exact ⟨accepted, others, checked, restMarked, rfl⟩
  · rintro ⟨accepted, others, checked, restMarked, rfl⟩
    exact ⟨accepted, checked, Result.bind_eq_ok.mpr ⟨others, restMarked, rfl⟩⟩

/-- Resources have marks exactly when each of them can be checked. -/
theorem exists_marks_iff :
    (∃ marks, selected.marks resources = .ok marks) ↔
      ∀ resource ∈ resources, ∃ accepted, selected.accepts resource = .ok accepted := by
  induction resources with
  | nil => simp [Matcher.marks]
  | cons first rest inductionHypothesis =>
      rw [List.forall_mem_cons, ← inductionHypothesis]
      constructor
      · rintro ⟨marks, marked⟩
        obtain ⟨accepted, others, checked, restMarked, -⟩ := marks_cons_eq_ok_iff.mp marked
        exact ⟨⟨accepted, checked⟩, others, restMarked⟩
      · rintro ⟨⟨accepted, checked⟩, others, restMarked⟩
        exact ⟨accepted :: others,
          marks_cons_eq_ok_iff.mpr ⟨accepted, others, checked, restMarked, rfl⟩⟩

/-- The accepted ones of some resources, in their order. -/
def accepted (selected : Matcher) (resources : List Resource) : List Resource :=
  resources.filter fun resource => selected.accepts resource = .ok true

/-- The positions of the marks that are set are those of the accepted resources. -/
theorem map_positionsFrom {marks : List Bool} (marked : selected.marks resources = .ok marks)
    (front : List Resource) :
    (positionsFrom front.length marks).map (fun position => (front ++ resources)[position]?) =
      (selected.accepted resources).map some := by
  induction resources generalizing front marks with
  | nil =>
      cases marked
      rfl
  | cons first rest inductionHypothesis =>
      obtain ⟨taken, others, checked, restMarked, rfl⟩ := marks_cons_eq_ok_iff.mp marked
      have tail := inductionHypothesis restMarked (front ++ [first])
      rw [List.length_append, List.length_singleton, List.append_assoc, List.singleton_append]
        at tail
      cases taken with
      | false =>
          have refused : selected.accepted (first :: rest) = selected.accepted rest := by
            simp [accepted, checked]
          rw [refused, positionsFrom, if_neg Bool.false_ne_true]
          exact tail
      | true =>
          have chosen : selected.accepted (first :: rest) = first :: selected.accepted rest := by
            simp [accepted, checked]
          have here : (front ++ first :: rest)[front.length]? = some first := by simp
          rw [chosen, positionsFrom, if_pos rfl, List.map_cons, List.map_cons, here, tail]

/-- The resources at the positions that are found are the accepted ones. -/
theorem map_positions {positions : List Nat}
    (found : selected.positions resources = .ok positions) :
    positions.map (fun position => resources[position]?) =
      (selected.accepted resources).map some := by
  unfold Matcher.positions at found
  obtain ⟨marks, marked, same⟩ := Result.map_eq_ok.mp found
  rw [← same]
  exact map_positionsFrom marked []

/-- One position is found when it is the only one. -/
theorem findOne_eq_ok_iff {position : Nat} :
    selected.findOne resources = .ok position ↔ selected.positions resources = .ok [position] := by
  unfold Matcher.findOne
  rw [Result.bind_eq_ok]
  constructor
  · intro ⟨positions, found, single⟩
    split at single
    · cases single
      exact found
    · cases single
    · cases single
  · intro found
    exact ⟨[position], found, rfl⟩

/-- A matcher picks a resource when each resource can be checked and that one alone is
accepted. -/
structure Picks (selected : Matcher) (resources : List Resource) (resource : Resource) :
    Prop where
  checked : ∀ other ∈ resources, ∃ accepted, selected.accepts other = .ok accepted
  only : selected.accepted resources = [resource]

/-- The position that is found is that of the picked resource. -/
theorem picks_of_findOne {position : Nat} (found : selected.findOne resources = .ok position) :
    ∃ resource, resources[position]? = some resource ∧ selected.Picks resources resource := by
  have alone := findOne_eq_ok_iff.mp found
  have places := map_positions alone
  rw [List.map_singleton] at places
  obtain ⟨resource, only, here⟩ := List.map_eq_singleton_iff.mp places.symm
  obtain ⟨marks, marked, -⟩ := Result.map_eq_ok.mp alone
  exact ⟨resource, here.symm, exists_marks_iff.mp ⟨marks, marked⟩, only⟩

/-- The position of a picked resource is found. -/
theorem Picks.findOne (picks : selected.Picks resources resource) :
    ∃ position, selected.findOne resources = .ok position ∧
      resources[position]? = some resource := by
  obtain ⟨marks, marked⟩ := exists_marks_iff.mpr picks.checked
  have located : selected.positions resources = .ok (positionsFrom 0 marks) :=
    Result.map_eq_ok.mpr ⟨marks, marked, rfl⟩
  have places := map_positions located
  rw [picks.only, List.map_singleton] at places
  obtain ⟨position, alone, here⟩ := List.map_eq_singleton_iff.mp places
  rw [alone] at located
  exact ⟨position, findOne_eq_ok_iff.mpr located, here⟩

/-- The same resource is picked when the resources come in another order. -/
theorem Picks.perm {others : List Resource} (picks : selected.Picks resources resource)
    (reordered : resources.Perm others) : selected.Picks others resource := by
  refine ⟨fun other member => picks.checked other (reordered.mem_iff.mpr member), ?_⟩
  have same : (selected.accepted resources).Perm (selected.accepted others) := reordered.filter _
  rw [picks.only] at same
  exact List.perm_singleton.mp same.symm

end Graft.Matcher
