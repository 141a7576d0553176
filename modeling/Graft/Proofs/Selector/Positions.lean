/-
This file describes the positions that a matcher finds among resources, and shows that its three ways
to select agree: they find the same resources and fail alike.
-/

import Graft.Proofs.Selector.Selection
import Mathlib.Data.List.Sort
import Mathlib.Data.List.TFAE
import Mathlib.Tactic.TFAE

namespace Graft.Matcher

open Result Selector

variable {selected : Matcher} {resources : List Resource} {resource : Resource}
  {failure : Failure}

/-- Each of the resources can be checked. -/
def Checked (selected : Matcher) (resources : List Resource) : Prop :=
  ∀ resource ∈ resources, Succeeds (selected.accepts resource)

/-- The resource at a position is accepted. -/
def AcceptsAt (selected : Matcher) (resources : List Resource) (position : Nat) : Prop :=
  ∃ resource, resources[position]? = some resource ∧ selected.accepts resource = .ok true

/-- The first resource that cannot be checked gives the failure. -/
def FailsFirst (selected : Matcher) (resources : List Resource) (failure : Failure) : Prop :=
  ∃ front resource back, resources = front ++ resource :: back ∧ selected.Checked front ∧
    selected.accepts resource = .error failure

/-- Whether a resource can be checked and is accepted. -/
def takes (selected : Matcher) (resource : Resource) : Bool :=
  match selected.accepts resource with
  | .ok accepted => accepted
  | .error _ => false

theorem takes_eq_true_iff :
    selected.takes resource = true ↔ selected.accepts resource = .ok true := by
  unfold takes
  cases selected.accepts resource <;> simp

/-- A resource that can be checked is taken when it is accepted. -/
theorem takes_of_accepts {accepted : Bool} (checked : selected.accepts resource = .ok accepted) :
    selected.takes resource = accepted := by
  unfold takes
  rw [checked]

/-- The marks of resources tell which of them are taken. -/
theorem eq_map_takes_of_marks {marks : List Bool} (marked : selected.marks resources = .ok marks) :
    marks = resources.map selected.takes := by
  induction resources generalizing marks with
  | nil =>
      cases marked
      rfl
  | cons first rest inductionHypothesis =>
      obtain ⟨accepted, others, checked, restMarked, same⟩ := marks_cons_eq_ok_iff.mp marked
      rw [same, List.map_cons, takes_of_accepts checked, ← inductionHypothesis restMarked]

/-- The positions of the marks that are set come in the order of the marks. -/
theorem positionsFrom_eq_findIdxs (start : Nat) (marks : List Bool) :
    positionsFrom start marks = marks.findIdxs id start := by
  induction marks generalizing start with
  | nil => rfl
  | cons mark rest inductionHypothesis =>
      rw [positionsFrom, List.findIdxs_cons, inductionHypothesis]
      rfl

/-- The positions that are found are those of the taken resources. -/
theorem positions_eq_ok_iff_findIdxs {positions : List Nat} :
    selected.positions resources = .ok positions ↔
      selected.Checked resources ∧ positions = resources.findIdxs selected.takes := by
  have located {marks : List Bool} (marked : selected.marks resources = .ok marks) :
      positionsFrom 0 marks = resources.findIdxs selected.takes := by
    rw [eq_map_takes_of_marks marked, positionsFrom_eq_findIdxs, List.findIdxs_map,
      Function.id_comp]
  unfold Matcher.positions
  rw [map_eq_ok]
  constructor
  · intro ⟨marks, marked, same⟩
    exact ⟨exists_marks_iff.mp ⟨marks, marked⟩, same.symm.trans (located marked)⟩
  · intro ⟨checked, same⟩
    obtain ⟨marks, marked⟩ := exists_marks_iff.mpr checked
    exact ⟨marks, marked, (located marked).trans same.symm⟩

/-- A position is among those of the taken resources when its resource is accepted. -/
theorem mem_findIdxs_takes_iff {position : Nat} :
    position ∈ resources.findIdxs selected.takes ↔ selected.AcceptsAt resources position := by
  rw [List.mem_findIdxs_iff_exists_getElem_pos, AcceptsAt]
  constructor
  · intro ⟨inside, taken⟩
    exact ⟨resources[position], List.getElem?_eq_getElem inside, takes_eq_true_iff.mp taken⟩
  · intro ⟨resource, here, accepted⟩
    obtain ⟨inside, same⟩ := List.getElem?_eq_some_iff.mp here
    exact ⟨inside, by rw [same]; exact takes_eq_true_iff.mpr accepted⟩

/-- The positions that are found are those of the accepted resources, in increasing order. -/
theorem positions_eq_ok_iff {positions : List Nat} :
    selected.positions resources = .ok positions ↔
      selected.Checked resources ∧ positions.Pairwise (· < ·) ∧
        ∀ position, position ∈ positions ↔ selected.AcceptsAt resources position := by
  rw [positions_eq_ok_iff_findIdxs]
  apply and_congr_right
  intro _
  constructor
  · intro same
    subst same
    exact ⟨List.pairwise_findIdxs, fun _ => mem_findIdxs_takes_iff⟩
  · intro ⟨increasing, exact⟩
    apply increasing.eq_of_mem_iff List.pairwise_findIdxs
    intro position
    rw [exact, mem_findIdxs_takes_iff]

/-- Positions are found when each resource can be checked. -/
theorem succeeds_positions_iff :
    Succeeds (selected.positions resources) ↔ selected.Checked resources := by
  constructor
  · intro ⟨positions, found⟩
    exact (positions_eq_ok_iff.mp found).1
  · intro checked
    exact ⟨_, positions_eq_ok_iff_findIdxs.mpr ⟨checked, rfl⟩⟩

/-- Resources fail with the first one, or with a later one if the first can be checked. -/
theorem failsFirst_cons_iff {rest : List Resource} :
    selected.FailsFirst (resource :: rest) failure ↔
      selected.accepts resource = .error failure ∨
        Succeeds (selected.accepts resource) ∧ selected.FailsFirst rest failure := by
  constructor
  · intro ⟨front, failing, back, split, checked, failed⟩
    cases front with
    | nil =>
        obtain ⟨rfl, -⟩ := List.cons.inj split
        exact .inl failed
    | cons first others =>
        obtain ⟨rfl, restSplit⟩ := List.cons.inj split
        obtain ⟨firstChecked, othersChecked⟩ := List.forall_mem_cons.mp checked
        exact .inr ⟨firstChecked, others, failing, back, restSplit, othersChecked, failed⟩
  · intro failing
    rcases failing with failed | ⟨checked, front, failing, back, split, frontChecked, failed⟩
    · exact ⟨[], resource, rest, rfl, List.forall_mem_nil _, failed⟩
    · refine ⟨resource :: front, failing, back, by rw [split, List.cons_append], ?_, failed⟩
      exact List.forall_mem_cons.mpr ⟨checked, frontChecked⟩

/-- The marks of resources fail with the first of them that cannot be checked. -/
theorem marks_eq_error_iff :
    selected.marks resources = .error failure ↔ selected.FailsFirst resources failure := by
  induction resources with
  | nil => simp [Matcher.marks, FailsFirst]
  | cons first rest inductionHypothesis =>
      rw [failsFirst_cons_iff, ← inductionHypothesis, Matcher.marks, bind_eq_error]
      apply or_congr_right
      simp only [Succeeds, bind_eq_error, pure_eq_ok, reduceCtorEq, and_false, exists_false, or_false,
        exists_and_right]

/-- Positions are not found because of the first resource that cannot be checked. -/
theorem positions_eq_error_iff :
    selected.positions resources = .error failure ↔ selected.FailsFirst resources failure := by
  rw [← marks_eq_error_iff, Matcher.positions, map_eq_error]

/-- The resources that are selected stand at the positions that are found. -/
theorem select_eq_ok_iff {chosen : List Resource} :
    selected.select resources = .ok chosen ↔
      ∃ positions, selected.positions resources = .ok positions ∧
        chosen.map some = positions.map fun position => resources[position]? := by
  unfold Matcher.select
  rw [map_eq_ok]
  apply exists_congr
  intro positions
  apply and_congr_right
  intro found
  have places := map_positions found
  have taken : positions.filterMap (fun position => resources[position]?) =
      selected.accepted resources := by
    have values := congrArg (List.filterMap id) places
    simpa [List.filterMap_map, Function.comp_def] using values
  rw [taken, places]
  constructor
  · intro same
    rw [same]
  · intro same
    exact (List.map_injective_iff.mpr (Option.some_injective _) same).symm

/-- Resources are not selected because of the first one that cannot be checked. -/
theorem select_eq_error_iff :
    selected.select resources = .error failure ↔ selected.FailsFirst resources failure := by
  rw [← positions_eq_error_iff, Matcher.select, map_eq_error]

/-- One position is not found when the positions are not, when there is none, or when there are
several. -/
theorem findOne_eq_error_iff :
    selected.findOne resources = .error failure ↔
      selected.positions resources = .error failure ∨
        ∃ positions, selected.positions resources = .ok positions ∧
          (positions = [] ∧ failure = .notFound selected.description ∨
            2 ≤ positions.length ∧
              failure = .ambiguous selected.description positions.length) := by
  unfold Matcher.findOne
  rw [bind_eq_error]
  apply or_congr_right
  apply exists_congr
  intro positions
  apply and_congr_right
  intro _
  match positions with
  | [] => simp [throw, throwThe, MonadExceptOf.throw, eq_comm]
  | [position] => simp
  | first :: second :: rest => simp [throw, throwThe, MonadExceptOf.throw, eq_comm]

/-- The one position that is found is the only one whose resource is accepted. -/
theorem findOne_eq_ok_iff_unique {position : Nat} :
    selected.findOne resources = .ok position ↔
      selected.Checked resources ∧
        ∀ other, selected.AcceptsAt resources other ↔ other = position := by
  rw [findOne_eq_ok_iff, positions_eq_ok_iff]
  apply and_congr_right
  intro _
  rw [and_iff_right (List.pairwise_singleton _ position)]
  apply forall_congr'
  intro other
  rw [List.mem_singleton]
  exact Iff.comm

/-- Where all can be checked, one position is not found when no resource is accepted or when several
are, and the failure tells how many. -/
theorem findOne_eq_error_iff_count :
    selected.findOne resources = .error failure ↔
      selected.FailsFirst resources failure ∨ selected.Checked resources ∧
        ((∀ position, ¬ selected.AcceptsAt resources position) ∧
            failure = .notFound selected.description ∨
          2 ≤ resources.countP selected.takes ∧
            failure = .ambiguous selected.description (resources.countP selected.takes)) := by
  have none : resources.findIdxs selected.takes = [] ↔
      ∀ position, ¬ selected.AcceptsAt resources position := by
    rw [List.eq_nil_iff_forall_not_mem]
    simp only [mem_findIdxs_takes_iff]
  rw [findOne_eq_error_iff, positions_eq_error_iff]
  apply or_congr_right
  rw [← none, ← List.length_findIdxs (s := 0)]
  constructor
  · intro ⟨positions, found, cause⟩
    obtain ⟨checked, same⟩ := positions_eq_ok_iff_findIdxs.mp found
    rw [same] at cause
    exact ⟨checked, cause⟩
  · intro ⟨checked, cause⟩
    exact ⟨_, positions_eq_ok_iff_findIdxs.mpr ⟨checked, rfl⟩, cause⟩

/-- The three ways to select agree. Positions are found exactly when each resource can be checked.
They are those of the accepted resources in increasing order, and the selected resources stand at
them. If a resource cannot be checked, the first such gives the failure of all three. Otherwise the
one position is found exactly when it is the only one, and the failure tells whether there is none or
how many there are. -/
theorem selections_agree (selected : Matcher) (resources : List Resource) :
    (Succeeds (selected.positions resources) ↔ selected.Checked resources) ∧
      (∀ positions, selected.positions resources = .ok positions ↔
        selected.Checked resources ∧ positions.Pairwise (· < ·) ∧
          ∀ position, position ∈ positions ↔ selected.AcceptsAt resources position) ∧
      (∀ chosen, selected.select resources = .ok chosen ↔
        ∃ positions, selected.positions resources = .ok positions ∧
          chosen.map some = positions.map fun position => resources[position]?) ∧
      (∀ failure, [selected.FailsFirst resources failure,
        selected.positions resources = .error failure,
        selected.select resources = .error failure].TFAE) ∧
      (∀ position, selected.findOne resources = .ok position ↔
        selected.Checked resources ∧
          ∀ other, selected.AcceptsAt resources other ↔ other = position) ∧
      ∀ failure, selected.findOne resources = .error failure ↔
        selected.FailsFirst resources failure ∨ selected.Checked resources ∧
          ((∀ position, ¬ selected.AcceptsAt resources position) ∧
              failure = .notFound selected.description ∨
            2 ≤ resources.countP selected.takes ∧
              failure = .ambiguous selected.description (resources.countP selected.takes)) := by
  refine ⟨succeeds_positions_iff, fun _ => positions_eq_ok_iff, fun _ => select_eq_ok_iff, ?_,
    fun _ => findOne_eq_ok_iff_unique, fun _ => findOne_eq_error_iff_count⟩
  intro failure
  tfae_have 1 ↔ 2 := positions_eq_error_iff.symm
  tfae_have 1 ↔ 3 := select_eq_error_iff.symm
  tfae_finish

end Graft.Matcher
