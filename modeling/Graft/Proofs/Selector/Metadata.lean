/-
This file shows that a matcher answers alike for resources with the same metadata.
-/

import Graft.Selector

namespace Graft

namespace Resource

/-- The keys of a root that matchers look at. -/
def metadataKeys : List String := ["apiVersion", "kind", "metadata"]

/-- The chains of keys whose texts matchers compare. -/
def textKeys : List (List String) :=
  [["apiVersion"], ["kind"], ["metadata", "name"], ["metadata", "namespace"]]

/-- Two resources have the same metadata when their roots have the same entries there. -/
def SameMetadata (first second : Resource) : Prop :=
  ∀ key ∈ metadataKeys, first.root.entry? key = second.root.entry? key

variable {first second : Resource}

theorem SameMetadata.refl (resource : Resource) : SameMetadata resource resource :=
  fun _ _ => rfl

theorem SameMetadata.trans {third : Resource} (same : SameMetadata first second)
    (other : SameMetadata second third) : SameMetadata first third :=
  fun key member => (same key member).trans (other key member)

/-- The same nodes lie below the keys that matchers look at. -/
theorem SameMetadata.entryAt?_eq (same : SameMetadata first second) {key : String}
    (member : key ∈ metadataKeys) (rest : List String) :
    first.root.entryAt? (key :: rest) = second.root.entryAt? (key :: rest) := by
  rw [Node.entryAt?, Node.entryAt?, same key member]

/-- The same texts lie below the keys that matchers look at. -/
theorem SameMetadata.field?_eq (same : SameMetadata first second) {key : String}
    (member : key ∈ metadataKeys) (rest : List String) :
    first.field? (key :: rest) = second.field? (key :: rest) := by
  rw [field?, field?, same.entryAt?_eq member]

end Resource

namespace Matcher

/-- Resources with the same texts agree with the same matchers. -/
theorem scalarsAgree_of_fields {first second : Resource}
    (same : ∀ keys ∈ Resource.textKeys, first.field? keys = second.field? keys)
    (selected : Matcher) : selected.scalarsAgree first = selected.scalarsAgree second := by
  have apiVersion : first.apiVersion? = second.apiVersion? := same _ (by decide)
  have kind : first.kind? = second.kind? := same _ (by decide)
  have name : first.name? = second.name? := same _ (by decide)
  have space : first.namespace? = second.namespace? := same _ (by decide)
  have parts : first.groupAndVersion = second.groupAndVersion := by
    rw [Resource.groupAndVersion, Resource.groupAndVersion, apiVersion]
  simp only [scalarsAgree, Resource.group, Resource.version, apiVersion, kind, name, space, parts]

/-- The texts of resources with the same metadata agree with the same matchers. -/
theorem scalarsAgree_congr {first second : Resource} (same : Resource.SameMetadata first second)
    (selected : Matcher) : selected.scalarsAgree first = selected.scalarsAgree second := by
  refine scalarsAgree_of_fields (fun keys member => ?_) selected
  simp only [Resource.textKeys, List.mem_cons, List.not_mem_nil, or_false] at member
  rcases member with rfl | rfl | rfl | rfl
  all_goals exact same.field?_eq (by decide) _

/-- A matcher answers alike for resources with the same metadata. -/
theorem accepts_congr {first second : Resource} (same : Resource.SameMetadata first second)
    (selected : Matcher) : selected.accepts first = selected.accepts second := by
  have labels : first.labels? = second.labels? := same.entryAt?_eq (by decide) _
  have annotations : first.annotations? = second.annotations? := same.entryAt?_eq (by decide) _
  simp only [accepts, scalarsAgree_congr same selected, labels, annotations]

end Matcher

end Graft
