/-
This file shows that rules with literal sources treat each resource on its own: a run over two
lists of resources is the run over the first together with the run over the second.
-/

import Graft.Proofs.Rule.Run

namespace Graft

/-- A list that is related to two lists one after another falls into a part for each of them. -/
theorem forall₂_append_iff {A B : Type} {related : A → B → Prop} {front back : List A}
    {after : List B} :
    List.Forall₂ related (front ++ back) after ↔
      ∃ first second, List.Forall₂ related front first ∧ List.Forall₂ related back second ∧
        after = first ++ second := by
  constructor
  · intro pairs
    refine ⟨after.take front.length, after.drop front.length, ?_, ?_, ?_⟩
    · have taken := List.forall₂_take front.length pairs
      rwa [List.take_left] at taken
    · have dropped := List.forall₂_drop front.length pairs
      rwa [List.drop_left] at dropped
    · exact (List.take_append_drop _ _).symm
  · rintro ⟨first, second, pairs, others, rfl⟩
    exact List.rel_append pairs others

namespace Rule

variable {renderer : Template.Renderer} {bound : Nat} {front back after : List Resource}

/-- A literal source does not look at the resources. -/
def IsLiteral (rule : Rule) : Prop := ∃ text, rule.source = .literal text

/-- A rule with a literal source acts on two lists of resources when it acts on each of them. -/
theorem acts_append_iff {rule : Rule} (literal : rule.IsLiteral) :
    rule.Acts renderer bound (front ++ back) after ↔
      ∃ first second, rule.Acts renderer bound front first ∧
        rule.Acts renderer bound back second ∧ after = first ++ second := by
  obtain ⟨text, source⟩ := literal
  simp only [acts_literal_iff source]
  exact forall₂_append_iff

/-- Rules with literal sources ran over two lists of resources when they ran over each of them. -/
theorem ran_append_iff {rules : List Rule} (literal : ∀ rule ∈ rules, rule.IsLiteral) :
    Ran renderer bound rules (front ++ back) after ↔
      ∃ first second, Ran renderer bound rules front first ∧
        Ran renderer bound rules back second ∧ after = first ++ second := by
  induction rules generalizing front back with
  | nil =>
      constructor
      · intro ran
        cases ran
        exact ⟨front, back, .nil front, .nil back, rfl⟩
      · rintro ⟨first, second, ran, others, rfl⟩
        cases ran
        cases others
        exact .nil _
  | cons rule rest inductionHypothesis =>
      obtain ⟨ruleLiteral, restLiteral⟩ := List.forall_mem_cons.mp literal
      constructor
      · intro ran
        cases ran with
        | cons acts others =>
            obtain ⟨first, second, actsFront, actsBack, rfl⟩ := (acts_append_iff ruleLiteral).mp acts
            -- The resources that the rule left fall into the same two lists.
            obtain ⟨left, right, ranFront, ranBack, rfl⟩ :=
              (inductionHypothesis restLiteral).mp others
            exact ⟨left, right, .cons actsFront ranFront, .cons actsBack ranBack, rfl⟩
      · rintro ⟨left, right, ranFront, ranBack, rfl⟩
        cases ranFront with
        | cons actsFront othersFront =>
            cases ranBack with
            | cons actsBack othersBack =>
                have acts := (acts_append_iff ruleLiteral).mpr ⟨_, _, actsFront, actsBack, rfl⟩
                have others := (inductionHypothesis restLiteral).mpr
                  ⟨left, right, othersFront, othersBack, rfl⟩
                exact .cons acts others

/-- A run of rules with literal sources over two lists of resources succeeds exactly when the run
over each of them does, and leaves what the two runs leave, one after the other. -/
theorem runAll_append {rules : List Rule} (literal : ∀ rule ∈ rules, rule.IsLiteral) :
    runAll renderer bound rules (front ++ back) = ⟨after, none⟩ ↔
      ∃ first second, runAll renderer bound rules front = ⟨first, none⟩ ∧
        runAll renderer bound rules back = ⟨second, none⟩ ∧ after = first ++ second := by
  simp only [runAll_eq_done_iff]
  exact ran_append_iff literal

/-- The second rule picks the resources by what the first one wrote to each of them. -/
theorem runAll_append_owner :
    let any : Matcher := ⟨none, none, none, none, none, none, none, none, ""⟩
    let pod : Matcher := ⟨none, none, none, some "Pod", none, none, none, none, ""⟩
    let named : Matcher := ⟨none, none, none, none, some "app", none, none, none, ""⟩
    let name : Path := ⟨[[.key "metadata", .key "name"]], "metadata.name"⟩
    let owner : Path := ⟨[[.key "metadata", .key "owner"]], "metadata.owner"⟩
    let rules : List Rule :=
      [⟨.literal "app", ⟨pod, [⟨name, none⟩]⟩⟩, ⟨.literal "team", ⟨named, [⟨owner, none⟩]⟩⟩,
        ⟨.literal "all", ⟨any, [⟨⟨[[.key "scope"]], "scope"⟩, none⟩]⟩⟩]
    let resource (kind : String) : Resource := ⟨.mapping [("kind", .text kind)]⟩
    let front := [resource "Pod", resource "Role"]
    let back := [resource "Pod"]
    let first := (runAll Template.render 16 rules front).resources
    let second := (runAll Template.render 16 rules back).resources
    (∀ rule ∈ rules, rule.IsLiteral) ∧
      runAll Template.render 16 rules front = ⟨first, none⟩ ∧
        runAll Template.render 16 rules back = ⟨second, none⟩ ∧
          runAll Template.render 16 rules (front ++ back) = ⟨first ++ second, none⟩ := by
  intro any pod named name owner rules resource front back first second
  have literal : ∀ rule ∈ rules, rule.IsLiteral := by
    simp [rules, IsLiteral]
  have firstRun : runAll Template.render 16 rules front = ⟨first, none⟩ :=
    Run.eq_of_failure? (by decide +kernel)
  have secondRun : runAll Template.render 16 rules back = ⟨second, none⟩ :=
    Run.eq_of_failure? (by decide +kernel)
  exact ⟨literal, firstRun, secondRun,
    (runAll_append literal).mpr ⟨first, second, firstRun, secondRun, rfl⟩⟩

end Rule

end Graft
