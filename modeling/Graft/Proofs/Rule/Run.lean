/-
This file describes the runs of rules: each rule acts on the resources that the rules before it
left, and a run that fails leaves what was written up to the field that failed.
-/

import Graft.Proofs.Rule.Target

namespace Graft

/-- A run without a failure leaves its resources. -/
theorem Run.eq_of_failure? {run : Run} (finished : run.failure? = none) :
    run = ⟨run.resources, none⟩ := by
  obtain ⟨resources, failure?⟩ := run
  obtain rfl : failure? = none := finished
  rfl

namespace Rule

/-- What a rule does to a list of resources. Its value is read before anything is written, and each
resource changes on its own, so the list keeps its length and its order. -/
inductive Acts (rule : Rule) (renderer : Template.Renderer) (bound : Nat) :
    List Resource → List Resource → Prop where
  | intro {value : Node} {before after : List Resource}
      (resolved : rule.source.value renderer bound before = .ok value)
      (changes : List.Forall₂ (rule.target.Changes bound value) before after) :
      Acts rule renderer bound before after

/-- A rule stops when its source has no value, which leaves all resources as they were, or when
its target stops. -/
inductive Stops (rule : Rule) (renderer : Template.Renderer) (bound : Nat) :
    List Resource → List Resource → Cause → Prop where
  | unresolved {before : List Resource} {cause : Cause}
      (failed : rule.source.value renderer bound before = .error cause) :
      Stops rule renderer bound before before cause
  | target {value : Node} {before after : List Resource} {cause : Cause}
      (resolved : rule.source.value renderer bound before = .ok value)
      (stops : rule.target.Stops bound value before after cause) :
      Stops rule renderer bound before after cause

/-- The rules act one after another, each on the resources that the one before it left. -/
inductive Ran (renderer : Template.Renderer) (bound : Nat) :
    List Rule → List Resource → List Resource → Prop where
  | nil (resources : List Resource) : Ran renderer bound [] resources resources
  | cons {rule : Rule} {rest : List Rule} {before middle after : List Resource}
      (acts : rule.Acts renderer bound before middle)
      (others : Ran renderer bound rest middle after) :
      Ran renderer bound (rule :: rest) before after

variable {renderer : Template.Renderer} {bound : Nat} {before middle after : List Resource}

/-- A rule that acts leaves the resources that it changes. -/
theorem Acts.apply_eq {rule : Rule} (acts : rule.Acts renderer bound before after) :
    rule.apply renderer bound before = (after, none) := by
  obtain ⟨resolved, changes⟩ := acts
  rw [apply, resolved]
  exact Target.write_eq_of_changes changes

/-- A rule that stops leaves its resources with the cause. -/
theorem Stops.apply_eq {rule : Rule} {cause : Cause}
    (stops : rule.Stops renderer bound before after cause) :
    rule.apply renderer bound before = (after, some cause) := by
  cases stops with
  | unresolved failed => rw [apply, failed]
  | target resolved stops =>
      rw [apply, resolved]
      exact stops.write_eq

/-- A rule acts or stops. -/
theorem acts_or_stops (rule : Rule) (renderer : Template.Renderer) (bound : Nat)
    (before : List Resource) :
    (∃ after, rule.Acts renderer bound before after) ∨
      ∃ after cause, rule.Stops renderer bound before after cause := by
  cases resolved : rule.source.value renderer bound before with
  | error cause => exact .inr ⟨before, cause, .unresolved resolved⟩
  | ok value =>
      rcases rule.target.changes_or_stops bound value before with
        ⟨after, changes⟩ | ⟨after, cause, stops⟩
      · exact .inl ⟨after, .intro resolved changes⟩
      · exact .inr ⟨after, cause, .target resolved stops⟩

/-- A rule with a literal source acts when its target changes the resources with that text. -/
theorem acts_literal_iff {rule : Rule} {text : String} (literal : rule.source = .literal text) :
    rule.Acts renderer bound before after ↔
      List.Forall₂ (rule.target.Changes bound (.text text)) before after := by
  constructor
  · rintro ⟨resolved, changes⟩
    rw [literal] at resolved
    cases resolved
    exact changes
  · intro changes
    refine .intro ?_ changes
    rw [literal]
    rfl

/-- One rule ran when it acts. -/
theorem ran_single_iff {rule : Rule} :
    Ran renderer bound [rule] before after ↔ rule.Acts renderer bound before after := by
  constructor
  · intro ran
    cases ran with
    | cons acts others =>
        cases others
        exact acts
  · intro acts
    exact .cons acts (.nil after)

/-- Two rules ran when the second acts on what the first one left. -/
theorem ran_pair_iff {first second : Rule} :
    Ran renderer bound [first, second] before after ↔
      ∃ middle, first.Acts renderer bound before middle ∧
        second.Acts renderer bound middle after := by
  constructor
  · intro ran
    cases ran with
    | cons acts others => exact ⟨_, acts, ran_single_iff.mp others⟩
  · rintro ⟨middle, acts, others⟩
    exact .cons acts (ran_single_iff.mpr others)

/-- After rules that ran the run goes on with the others. -/
theorem Ran.runFrom_append {earlier : List Rule}
    (ran : Ran renderer bound earlier before middle) (number : Nat) (rest : List Rule) :
    runFrom renderer bound number (earlier ++ rest) before =
      runFrom renderer bound (number + earlier.length) rest middle := by
  induction ran generalizing number with
  | nil _ => rfl
  | @cons rule earlier _ _ _ acts _ inductionHypothesis =>
      have position : number + 1 + earlier.length = number + (rule :: earlier).length := by
        rw [List.length_cons]
        omega
      rw [List.cons_append, runFrom, acts.apply_eq, ← position]
      exact inductionHypothesis (number + 1)

/-- Rules that all act leave the resources of the last one. -/
theorem Ran.runAll_eq {rules : List Rule} (ran : Ran renderer bound rules before after) :
    runAll renderer bound rules before = ⟨after, none⟩ := by
  have run := ran.runFrom_append 0 []
  rw [List.append_nil] at run
  exact run

/-- A rule that stops after rules that ran ends the run and is named by its position. -/
theorem Ran.runAll_eq_of_stops {earlier : List Rule} {rule : Rule} {cause : Cause}
    (ran : Ran renderer bound earlier before middle)
    (stops : rule.Stops renderer bound middle after cause) (later : List Rule) :
    runAll renderer bound (earlier ++ rule :: later) before =
      ⟨after, some ⟨earlier.length, cause⟩⟩ := by
  rw [runAll, ran.runFrom_append, runFrom, stops.apply_eq, Nat.zero_add]

/-- All rules run, or one of them stops after those before it ran. -/
theorem ran_or_stops (renderer : Template.Renderer) (bound : Nat) (rules : List Rule)
    (before : List Resource) :
    (∃ after, Ran renderer bound rules before after) ∨
      ∃ earlier rule later middle after cause, rules = earlier ++ rule :: later ∧
        Ran renderer bound earlier before middle ∧
        rule.Stops renderer bound middle after cause := by
  induction rules generalizing before with
  | nil => exact .inl ⟨before, .nil before⟩
  | cons first rest inductionHypothesis =>
      rcases first.acts_or_stops renderer bound before with
        ⟨reached, acts⟩ | ⟨after, cause, stops⟩
      · rcases inductionHypothesis reached with
          ⟨after, others⟩ | ⟨earlier, rule, later, middle, after, cause, rfl, others, stops⟩
        · exact .inl ⟨after, .cons acts others⟩
        · exact .inr ⟨first :: earlier, rule, later, middle, after, cause, rfl,
            .cons acts others, stops⟩
      · exact .inr ⟨[], first, rest, before, after, cause, rfl, .nil before, stops⟩

/-- Where the run succeeds the rules ran. -/
theorem ran_of_runAll {rules : List Rule}
    (run : runAll renderer bound rules before = ⟨after, none⟩) :
    Ran renderer bound rules before after := by
  rcases ran_or_stops renderer bound rules before with
    ⟨left, ran⟩ | ⟨_, _, later, _, _, _, rfl, ran, stops⟩
  · cases run.symm.trans ran.runAll_eq
    exact ran
  · cases run.symm.trans (ran.runAll_eq_of_stops stops later)

/-- A run succeeds exactly when its rules act one after another. Each rule reads its value and
picks its resources before it writes. A resource that is not picked stays, and in one that is
picked the fields are written in order, each with the value or with its text now where the matches
are replaced. -/
theorem runAll_eq_done_iff {rules : List Rule} :
    runAll renderer bound rules before = ⟨after, none⟩ ↔
      Ran renderer bound rules before after :=
  ⟨ran_of_runAll, Ran.runAll_eq⟩

/-- A rule that copies a mapping into itself copies what was there before, also to the resources
after it. -/
example :
    let ofKind (kind : Option String) : Matcher :=
      ⟨none, none, none, kind, none, none, none, none, ""⟩
    let rule : Rule :=
      ⟨.field ⟨ofKind (some "Pod"), ⟨[[.key "metadata"]], "metadata"⟩⟩,
        ⟨ofKind none, [⟨⟨[[.key "metadata", .key "copy"]], "metadata.copy"⟩, none⟩]⟩⟩
    let resource (kind name : String) (more : List (String × Node)) : Node :=
      .mapping [("kind", .text kind), ("metadata", .mapping (("name", .text name) :: more))]
    let copy : List (String × Node) := [("copy", .mapping [("name", .text "a")])]
    let run := runAll Template.render 16 [rule]
      [⟨resource "Pod" "a" []⟩, ⟨resource "Service" "b" []⟩]
    run.resources.map Resource.root = [resource "Pod" "a" copy, resource "Service" "b" copy] := by
  decide +kernel

/-- A run fails exactly when one of its rules stops after those before it ran, whatever rules come
after it. The failure has the position of that rule and its cause, and the resources are those
that it left when it stopped. -/
theorem runAll_eq_failed_iff {rules : List Rule} {failure : Failure} :
    runAll renderer bound rules before = ⟨after, some failure⟩ ↔
      ∃ earlier rule later middle, rules = earlier ++ rule :: later ∧
        failure.rule = earlier.length ∧
        runAll renderer bound earlier before = ⟨middle, none⟩ ∧
        rule.Stops renderer bound middle after failure.cause := by
  constructor
  · intro run
    rcases ran_or_stops renderer bound rules before with
      ⟨left, ran⟩ | ⟨earlier, rule, later, middle, left, cause, rfl, ran, stops⟩
    · cases run.symm.trans ran.runAll_eq
    · cases run.symm.trans (ran.runAll_eq_of_stops stops later)
      exact ⟨earlier, rule, later, middle, rfl, rfl, ran.runAll_eq, stops⟩
  · rintro ⟨earlier, rule, later, middle, rfl, position, run, stops⟩
    rw [(ran_of_runAll run).runAll_eq_of_stops stops, ← position]

end Rule

end Graft
