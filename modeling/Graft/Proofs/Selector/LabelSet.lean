/-
This file describes the labels and annotations that a matcher looks at: which of them are
malformed, and that a mapping of scalars means the same as a text of pairs.
-/

import Graft.Node.Step
import Graft.Proofs.Label.Pairs
import Graft.Proofs.Node.Equality
import Graft.Proofs.Node.Place
import Graft.Proofs.Selector.Metadata

namespace Graft

open Selector (Failure)

namespace Matcher

/-- Labels are malformed when they are a sequence, or a scalar whose text has a faulty part. -/
inductive Malformed : Option Node → Failure → Prop where
  | sequence (items : List Node) :
      Malformed (some (.sequence items)) (.invalidLabelSet "<sequence>" .sequence)
  | text {node : Node} {written : String} {fault : Label.LabelSetFault}
      (textual : node.scalarText? = some written)
      (faulty : Label.FirstFault fault (Text.pieces ',' written.toList)) :
      Malformed (some node) (.invalidLabelSet written fault)

/-- The labels of a scalar are the pairs of its text. -/
theorem labelSet_scalar {node : Node} {written : String}
    (textual : node.scalarText? = some written) :
    labelSet (some node) =
      (Label.parseLabelSet written).mapError (Failure.invalidLabelSet written) := by
  cases node with
  | mapping _ | sequence _ => cases textual
  | text _ | number _ | boolean _ | null =>
      obtain rfl := Option.some.inj textual
      simp only [labelSet, Node.scalarText?, Option.getD_some]
      split <;> rename_i parsed <;> rw [parsed] <;> rfl

/-- Labels cannot be read exactly when they are malformed. -/
theorem labelSet_eq_error_iff {node : Option Node} {failure : Failure} :
    labelSet node = .error failure ↔ Malformed node failure := by
  have scalar {node : Node} {written : String} (textual : node.scalarText? = some written) :
      labelSet (some node) = .error failure ↔ Malformed (some node) failure := by
    rw [labelSet_scalar textual]
    constructor
    · intro failed
      cases parsed : Label.parseLabelSet written with
      | ok labels =>
          rw [parsed] at failed
          cases failed
      | error fault =>
          rw [parsed] at failed
          cases failed
          exact .text textual (Label.parseLabelSet_eq_error_iff.mp parsed)
    · intro malformed
      cases malformed with
      | sequence items => cases textual
      | text same faulty =>
          obtain rfl := Option.some.inj (textual.symm.trans same)
          rw [Label.parseLabelSet_eq_error_iff.mpr faulty]
          rfl
  cases node with
  | none => exact ⟨nofun, nofun⟩
  | some node =>
      cases node with
      | mapping entries =>
          refine ⟨nofun, fun malformed => ?_⟩
          cases malformed with
          | text textual _ => cases textual
      | sequence items =>
          constructor
          · rintro ⟨⟩
            exact .sequence items
          · intro malformed
            cases malformed with
            | sequence _ => rfl
            | text textual _ => cases textual
      | text _ | number _ | boolean _ | null => exact scalar rfl

/-- The entries of a mapping are some labels when they have the same keys and are scalars with the
texts of the labels. -/
def Spells (entries : List (String × Node)) (labels : Label.LabelSet) : Prop :=
  List.Forall₂ (fun entry label => entry.1 = label.1 ∧ entry.2.scalarText? = some label.2)
    entries labels

/-- The labels of a mapping are those that its entries spell. -/
theorem Spells.labelSet_eq {entries : List (String × Node)} {labels : Label.LabelSet}
    (spells : Spells entries labels) : labelSet (some (.mapping entries)) = .ok labels := by
  rw [labelSet]
  apply congrArg Except.ok
  induction spells with
  | nil => rfl
  | cons first _ inductionHypothesis =>
      rw [List.filterMap_cons, first.1, first.2, inductionHypothesis]
      rfl

/-- A condition holds of labels in a mapping as it holds of their text, in whatever order the text
has them. -/
theorem conditionHolds_labelSetText {entries : List (String × Node)}
    {labels written : Label.LabelSet} (spells : Spells entries labels)
    (distinct : (Entries.keys labels).Nodup) (pairs : ∀ label ∈ labels, Label.IsPair label)
    (reordered : written.Perm labels) (condition : Option Label.Condition) :
    conditionHolds condition (some (.text (Label.labelSetText written))) =
      conditionHolds condition (some (.mapping entries)) := by
  cases condition with
  | none => rfl
  | some condition =>
      have writtenDistinct : (Entries.keys written).Nodup :=
        (reordered.map Prod.fst).nodup_iff.mpr distinct
      have writtenPairs : ∀ label ∈ written, Label.IsPair label := fun label member =>
        pairs label (reordered.mem_iff.mp member)
      have read : labelSet (some (.text (Label.labelSetText written))) = .ok written := by
        rw [labelSet_scalar rfl, Label.parseLabelSet_text writtenPairs writtenDistinct]
        rfl
      have same := Label.Condition.holds_perm reordered writtenDistinct condition
      simp only [conditionHolds, read, spells.labelSet_eq, Except.map, same]

/-- A resource that has its labels as a mapping of scalars and the same resource with the text of
these labels, in whatever order, get the same answer from each matcher. The same is true of its
annotations. -/
theorem accepts_labelSetText {resource : Resource} {field : String}
    {entries : List (String × Node)} {labels written : Label.LabelSet}
    (isField : field = "labels" ∨ field = "annotations")
    (present : resource.root.entryAt? ["metadata", field] = some (.mapping entries))
    (spells : Spells entries labels) (distinct : (Entries.keys labels).Nodup)
    (pairs : ∀ label ∈ labels, Label.IsPair label) (reordered : written.Perm labels)
    (selected : Matcher) :
    selected.accepts ⟨resource.root.placeAt [.key "metadata", .key field]
      (.text (Label.labelSetText written))⟩ = selected.accepts resource := by
  let text : Node := .text (Label.labelSetText written)
  let changed : Resource := ⟨resource.root.placeAt (["metadata", field].map .key) text⟩
  have here : changed.root.entryAt? ["metadata", field] = some text :=
    Node.entryAt?_placeAt_same present text
  have elsewhere {keys : List String} (notAbove : ¬ keys <+: ["metadata", field])
      (notBelow : ¬ ["metadata", field] <+: keys) :
      changed.root.entryAt? keys = resource.root.entryAt? keys :=
    Node.entryAt?_placeAt_other notAbove notBelow resource.root text
  have apart : ∀ keys ∈ Resource.textKeys,
      ¬ keys <+: ["metadata", field] ∧ ¬ ["metadata", field] <+: keys := by
    rcases isField with rfl | rfl
    · decide
    · decide
  have texts : selected.scalarsAgree changed = selected.scalarsAgree resource := by
    refine scalarsAgree_of_fields (fun keys member => ?_) selected
    obtain ⟨notAbove, notBelow⟩ := apart keys member
    rw [Resource.field?, Resource.field?, elsewhere notAbove notBelow]
  have holds (condition : Option Label.Condition) :
      conditionHolds condition (changed.root.entryAt? ["metadata", field]) =
        conditionHolds condition (resource.root.entryAt? ["metadata", field]) := by
    rw [here, present]
    exact conditionHolds_labelSetText spells distinct pairs reordered condition
  show selected.accepts changed = selected.accepts resource
  rcases isField with rfl | rfl
  · have annotations : changed.annotations? = resource.annotations? :=
      elsewhere (by decide) (by decide)
    have labels : conditionHolds selected.labels changed.labels? =
      conditionHolds selected.labels resource.labels? := holds selected.labels
    simp only [accepts, texts, labels, annotations]
  · have labels : changed.labels? = resource.labels? := elsewhere (by decide) (by decide)
    have annotations : conditionHolds selected.annotations changed.annotations? =
      conditionHolds selected.annotations resource.annotations? := holds selected.annotations
    simp only [accepts, texts, labels, annotations]

/-- Numbers, truth values, empty texts and texts with an equals sign mean the same in a text of
pairs. -/
theorem accepts_labelSetText_scalars :
    let entries : List (String × Node) := [("app", .text "web"), ("port", .number (.whole 80)),
      ("on", .boolean true), ("note", .null), ("query", .text "a=b")]
    let resource (labels : Node) : Resource := ⟨.mapping [("kind", .text "Pod"),
      ("metadata", .mapping [("labels", labels), ("name", .text "a")])]⟩
    let selector : Selector := { kind := "Pod", labelSelector := "port in (80),note=,on!=false" }
    ∃ selected, selector.compile = .ok selected ∧
      selected.accepts (resource (.mapping entries)) = .ok true ∧
      selected.accepts (resource (.text "query=a=b,note=,on=true,port=80,app=web")) = .ok true := by
  intro entries resource selector
  let labels : Label.LabelSet :=
    [("app", "web"), ("port", "80"), ("on", "true"), ("note", ""), ("query", "a=b")]
  let selected : Matcher := ⟨none, none, none, some "Pod", none, none, none,
    some ⟨[.among "port" ["80"], .equals "note" "", .differs "on" "false"]⟩, selector.text⟩
  have compiled : selector.compile = .ok selected := by decide +kernel
  have present : (resource (.mapping entries)).root.entryAt? ["metadata", "labels"] =
      some (.mapping entries) := by decide +kernel
  have number : (Node.number (.whole 80)).scalarText? = some "80" := by decide +kernel
  have spells : Spells entries labels := .cons ⟨rfl, rfl⟩ (.cons ⟨rfl, number⟩
    (.cons ⟨rfl, rfl⟩ (.cons ⟨rfl, rfl⟩ (.cons ⟨rfl, rfl⟩ .nil))))
  have pairs : ∀ label ∈ labels, Label.IsPair label := by decide +kernel
  have accepted : selected.accepts (resource (.mapping entries)) = .ok true := by decide +kernel
  have same := accepts_labelSetText (.inl rfl) present spells (by decide) pairs
    labels.reverse_perm selected
  exact ⟨selected, compiled, accepted, same.trans accepted⟩

end Matcher

end Graft
