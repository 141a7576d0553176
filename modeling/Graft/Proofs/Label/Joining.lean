/-
This file shows that a comma between two conditions is conjunction, and that a condition is a set of
requirements on a set of labels: neither order nor repetition has a part in it.
-/

import Graft.Proofs.Label.Pairs
import Graft.Proofs.Label.Parts
import Graft.Proofs.Label.Reading

namespace Graft.Label

/-- The condition with the requirements of two conditions, one after the other. -/
def Condition.and (first second : Condition) : Condition :=
  ⟨first.requirements ++ second.requirements⟩

/-- The same requirements in whatever order and however often. -/
def Condition.Same (first second : Condition) : Prop :=
  ∀ requirement, requirement ∈ first.requirements ↔ requirement ∈ second.requirements

instance (first second : Condition) : Decidable (first.Same second) :=
  decidable_of_iff (first.requirements ⊆ second.requirements ∧
      second.requirements ⊆ first.requirements) <| by
    unfold Condition.Same
    constructor
    · intro ⟨forth, back⟩ requirement
      exact ⟨fun member => forth member, fun member => back member⟩
    · intro same
      exact ⟨fun _ member => (same _).mp member, fun _ member => (same _).mpr member⟩

/-- A text that can be split is split in the same way in front of a comma. -/
theorem splitParts_append {first : List Char} {parts : List (List Char)}
    (split : splitParts false first = .ok parts) (second : List Char) :
    splitParts false (first ++ ',' :: second) = (splitParts false second).map (parts ++ ·) := by
  obtain ⟨given, each, rfl⟩ := splitParts_eq_ok_iff.mp split
  clear split
  induction parts with
  | nil => exact absurd rfl given
  | cons part others inductionHypothesis =>
      obtain ⟨isPart, othersEach⟩ := List.forall_mem_cons.mp each
      cases others with
      | nil =>
          rw [List.intercalate_singleton]
          exact isPart.splitParts_append second
      | cons next others =>
          rw [List.intercalate_cons_cons, List.append_assoc, List.append_assoc,
            List.singleton_append, isPart.splitParts_append,
            inductionHypothesis (List.cons_ne_nil _ _) othersEach]
          cases splitParts false second <;> rfl

/-- Parts that can be read are read one after the other. -/
theorem parseParts_append {front back : List (List Char)} {earlier later : List Requirement}
    (frontRead : parseParts front = .ok earlier) (backRead : parseParts back = .ok later) :
    parseParts (front ++ back) = .ok (earlier ++ later) := by
  rw [parseParts_eq_ok_iff] at frontRead backRead ⊢
  rw [List.map_append, List.filter_append]
  exact List.rel_append frontRead backRead

/-- A condition holds of labels when each of its requirements does. -/
theorem Condition.holds_eq_true_iff {condition : Condition} {labels : LabelSet} :
    condition.holds labels = true ↔
      ∀ requirement ∈ condition.requirements, requirement.holds labels = true :=
  List.all_eq_true

/-- Two conditions joined hold of labels when both do. -/
theorem Condition.holds_and (first second : Condition) (labels : LabelSet) :
    (first.and second).holds labels = (first.holds labels && second.holds labels) :=
  List.all_append

/-- The same requirements hold of the same labels. -/
theorem Condition.Same.holds_eq {first second : Condition} (same : first.Same second)
    (labels : LabelSet) : first.holds labels = second.holds labels := by
  rw [Bool.eq_iff_iff, Condition.holds_eq_true_iff, Condition.holds_eq_true_iff]
  exact forall_congr' fun requirement => imp_congr_left (same requirement)

/-- Two texts of conditions with a comma between them are the text of a condition that has the
requirements of both, and so holds of the labels that both hold of. What a condition that was read
holds of depends neither on the order and repetition of its requirements nor on the order of the
labels. -/
theorem parseCondition_joined {first second : String} {earlier later : Condition}
    (firstRead : parseCondition first = .ok earlier)
    (secondRead : parseCondition second = .ok later) :
    parseCondition (first ++ "," ++ second) = .ok (earlier.and later) ∧
      (∀ labels, (earlier.and later).holds labels =
        (earlier.holds labels && later.holds labels)) ∧
      ∀ (condition : Condition) (labels reordered : LabelSet), condition.Same earlier →
        reordered.Perm labels → (Entries.keys labels).Nodup →
          condition.holds reordered = earlier.holds labels := by
  refine ⟨?_, Condition.holds_and earlier later, ?_⟩
  · obtain ⟨front, frontSplit, frontRead⟩ := parseCondition_eq_ok_iff.mp firstRead
    obtain ⟨back, backSplit, backRead⟩ := parseCondition_eq_ok_iff.mp secondRead
    refine parseCondition_eq_ok_iff.mpr ⟨front ++ back, ?_, parseParts_append frontRead backRead⟩
    have joined : (first ++ "," ++ second).toList = first.toList ++ ',' :: second.toList := by simp
    rw [joined, splitParts_append frontSplit, backSplit]
    rfl
  · intro condition labels reordered same order distinct
    rw [same.holds_eq, Condition.holds_perm order.symm distinct]

/-- Blank parts and commas between parentheses stay apart from the comma that joins two texts. -/
theorem parseCondition_joined_lists :
    let first := " env in (prod, staging),,app "
    let second := "!canary,\ttier notin (cache)"
    let earlier : Condition := ⟨[.among "env" ["prod", "staging"], .present "app"]⟩
    let later : Condition := ⟨[.absent "canary", .notAmong "tier" ["cache"]]⟩
    let repeated : Condition := ⟨[.present "app", .among "env" ["prod", "staging"], .present "app"]⟩
    let labels : LabelSet := [("env", "prod"), ("app", "x")]
    parseCondition first = .ok earlier ∧ parseCondition second = .ok later ∧
      parseCondition (first ++ "," ++ second) = .ok (earlier.and later) ∧
        (earlier.and later).holds labels = true ∧ repeated.holds labels.reverse = true := by
  intro first second earlier later repeated labels
  have firstRead : parseCondition first = .ok earlier := by decide +kernel
  have secondRead : parseCondition second = .ok later := by decide +kernel
  obtain ⟨joined, conjunction, unordered⟩ := parseCondition_joined firstRead secondRead
  refine ⟨firstRead, secondRead, joined, ?_, ?_⟩
  · rw [conjunction]
    decide +kernel
  · rw [unordered repeated labels labels.reverse (by decide) labels.reverse_perm (by decide)]
    decide +kernel

end Graft.Label
