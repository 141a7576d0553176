/-
This file shows that a rule with a literal source that runs again over its own result changes
nothing.
-/

import Graft.Proofs.Path.Overwrite
import Graft.Proofs.Rule.Run

namespace Graft

variable {bound : Nat} {selected : Matcher} {path : Path} {before after : List Resource}

namespace Target

/-- A target without conditions that has one field at a stable path leaves a resource that it
changed as it is: the resource is refused now, or gets the same tree again. -/
theorem Changes.again {value : Node} {resource changed : Resource} {target : Target}
    (noLabels : target.selected.labels = none) (noAnnotations : target.selected.annotations = none)
    (single : target.fields = [⟨path, none⟩]) (stable : path.Stable)
    (readBack : target.selected.accepts resource = .ok true →
      ∀ document ∈ resource.root.rendered bound 0 value path.spans,
        Yaml.parse (Yaml.render document) = .ok document)
    (changes : target.Changes bound value resource changed) :
    target.Changes bound value changed changed := by
  cases changes with
  | other refused => exact .other refused
  | @written tree accepted written =>
      rw [single] at written
      have done := written_whole_iff.mp written
      obtain ⟨last, again, alone⟩ :=
        Node.writeSpans_writeSpans stable rfl (readBack accepted) done
      cases done.symm.trans alone
      have checked := Matcher.accepts_eq_scalarsAgree noLabels noAnnotations ⟨tree⟩
      -- The write may have changed what the matcher looks at.
      cases agrees : target.selected.scalarsAgree ⟨tree⟩ with
      | false =>
          rw [agrees] at checked
          exact .other checked
      | true =>
          rw [agrees] at checked
          refine .written checked ?_
          rw [single]
          exact written_whole_iff.mpr again

/-- A target that leaves each resource that it changed as it is leaves all of them. -/
theorem forall₂_changes_again {value : Node} {target : Target}
    (noLabels : target.selected.labels = none) (noAnnotations : target.selected.annotations = none)
    (single : target.fields = [⟨path, none⟩]) (stable : path.Stable)
    (readBack : ∀ resource ∈ before, target.selected.accepts resource = .ok true →
      ∀ document ∈ resource.root.rendered bound 0 value path.spans,
        Yaml.parse (Yaml.render document) = .ok document)
    (changes : List.Forall₂ (target.Changes bound value) before after) :
    List.Forall₂ (target.Changes bound value) after after := by
  induction changes with
  | nil => exact .nil
  | cons first _ inductionHypothesis =>
      obtain ⟨firstBack, restBack⟩ := List.forall_mem_cons.mp readBack
      exact .cons (first.again noLabels noAnnotations single stable firstBack)
        (inductionHypothesis restBack)

end Target

namespace Rule

variable {text : String} {renderer : Template.Renderer}

/-- A rule with a literal source whose target has no conditions and one field without a scope, at
a path without predicates, changes nothing when it runs again over what it left: the second run
succeeds and keeps each resource, also those that the target no longer accepts. The nested
documents that the first run puts into text have to be read back from it. -/
theorem runAll_again {rule : Rule} (literal : rule.source = .literal text)
    (noLabels : rule.target.selected.labels = none)
    (noAnnotations : rule.target.selected.annotations = none)
    (single : rule.target.fields = [⟨path, none⟩]) (plain : path.Plain)
    (readBack : ∀ resource ∈ before, rule.target.selected.accepts resource = .ok true →
      ∀ document ∈ resource.root.rendered bound 0 (.text text) path.spans,
        Yaml.parse (Yaml.render document) = .ok document)
    (run : runAll renderer bound [rule] before = ⟨after, none⟩) :
    runAll renderer bound [rule] after = ⟨after, none⟩ := by
  have acts := ran_single_iff.mp (ran_of_runAll run)
  have changes := (acts_literal_iff literal).mp acts
  have again := Target.forall₂_changes_again noLabels noAnnotations single plain.stable readBack
    changes
  exact (ran_single_iff.mpr ((acts_literal_iff literal).mpr again)).runAll_eq

/-- A rule that adds to a document in the name by which its target picks a resource picks none the
second time. -/
theorem runAll_again_name :
    let named : Matcher := ⟨none, none, none, none, some "image: ~", none, none, none, ""⟩
    let path : Path :=
      ⟨[[.key "metadata", .key "name"], [.key "image", .key "tag"]], "metadata.name|image.tag"⟩
    let rule : Rule := ⟨.literal "b", ⟨named, [⟨path, none⟩]⟩⟩
    let resource (name : String) : Resource :=
      ⟨.mapping [("metadata", .mapping [("name", .text name)])]⟩
    let before := [resource "image: ~", resource "image: a"]
    let run := runAll Template.render 16 [rule] before
    run.failure? = none ∧
      runAll Template.render 16 [rule] run.resources = ⟨run.resources, none⟩ := by
  intro named path rule resource before run
  have plain : path.Plain := by
    intro span member
    rcases List.mem_pair.mp member with rfl | rfl <;> simp [Span.Plain]
  have readBack : ∀ resource ∈ before, named.accepts resource = .ok true →
      ∀ document ∈ resource.root.rendered 16 0 (.text "b") path.spans,
        Yaml.parse (Yaml.render document) = .ok document := by
    decide +kernel
  have succeeded : run.failure? = none := by decide +kernel
  exact ⟨succeeded, runAll_again rfl rfl rfl rfl plain readBack (Run.eq_of_failure? succeeded)⟩

end Rule

end Graft
