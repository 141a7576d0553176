/-
This file shows that the order of the resources does not matter to a run: the run over reordered
resources succeeds together with the run over the others, with the result in the new order, and
both stop at the same rule.
-/

import Graft.Proofs.Rule.Run

namespace Graft

/-- The items at the positions that an order lists. -/
def arrange {A : Type} (order : List Nat) (items : List A) : List A :=
  order.filterMap fun position => items[position]?

/-- The positions in their own order give the items as they are. -/
theorem arrange_range {A : Type} (items : List A) :
    arrange (List.range items.length) items = items := by
  induction items with
  | nil => rfl
  | cons first rest inductionHypothesis =>
      rw [arrange, List.length_cons, List.range_succ_eq_map, List.filterMap_cons,
        List.filterMap_map]
      exact congrArg (first :: ·) inductionHypothesis

/-- Items in another order are a permutation of the items. -/
theorem perm_arrange {A : Type} {order : List Nat} {items : List A}
    (permutes : order.Perm (List.range items.length)) : items.Perm (arrange order items) := by
  have reordered : (arrange (List.range items.length) items).Perm (arrange order items) :=
    (permutes.filterMap _).symm
  rwa [arrange_range] at reordered

/-- Lists whose items are related one by one are so in each order. -/
theorem arrange_forall₂ {A B : Type} {related : A → B → Prop} {before : List A} {after : List B}
    (pairs : List.Forall₂ related before after) (order : List Nat) :
    List.Forall₂ related (arrange order before) (arrange order after) := by
  induction order with
  | nil => exact .nil
  | cons position order inductionHypothesis =>
      rcases Nat.lt_or_ge position before.length with inside | outside
      · have afterInside : position < after.length := pairs.length_eq ▸ inside
        simp only [arrange, List.filterMap_cons, List.getElem?_eq_getElem inside,
          List.getElem?_eq_getElem afterInside]
        exact .cons (pairs.get inside afterInside) inductionHypothesis
      · have afterOutside : after.length ≤ position := pairs.length_eq ▸ outside
        simp only [arrange, List.filterMap_cons, List.getElem?_eq_none outside,
          List.getElem?_eq_none afterOutside]
        exact inductionHypothesis

variable {bound : Nat} {renderer : Template.Renderer} {before after others : List Resource}

/-- A field of a source is read in the resource that its matcher picks. -/
theorem SourceField.read_eq_ok_iff {field : SourceField} {node : Node} :
    field.read bound before = .ok node ↔
      ∃ resource, field.selected.Picks before resource ∧
        resource.root.read field.path bound = .ok node := by
  constructor
  · intro read
    rw [SourceField.read] at read
    split at read
    · cases read
    · rename_i position found
      obtain ⟨resource, here, picks⟩ := Matcher.picks_of_findOne found
      simp only [here, Option.getD_some] at read
      exact ⟨resource, picks, Result.mapError_eq_ok.mp read⟩
  · rintro ⟨resource, picks, read⟩
    obtain ⟨position, found, here⟩ := picks.findOne
    simp only [SourceField.read, found, here, Option.getD_some]
    exact Result.mapError_eq_ok.mpr read

/-- The same node is read when the resources come in another order. -/
theorem SourceField.read_perm {field : SourceField} {node : Node}
    (read : field.read bound before = .ok node) (reordered : before.Perm others) :
    field.read bound others = .ok node := by
  obtain ⟨resource, picks, found⟩ := read_eq_ok_iff.mp read
  exact read_eq_ok_iff.mpr ⟨resource, picks.perm reordered, found⟩

namespace Source

/-- The same texts are read when the resources come in another order. -/
theorem readTexts_perm {index : Nat} {places : List SourceField} {texts : List String}
    (read : readTexts bound before index places = .ok texts) (reordered : before.Perm others) :
    readTexts bound others index places = .ok texts := by
  induction places generalizing index texts with
  | nil => exact read
  | cons place rest inductionHypothesis =>
      rw [readTexts] at read
      obtain ⟨node, found, given⟩ := Result.bind_eq_ok.mp read
      split at given
      · cases given
      · rename_i text textual
        obtain ⟨tail, restRead, same⟩ := Result.bind_eq_ok.mp given
        rw [readTexts, SourceField.read_perm found reordered, Result.ok_bind]
        simp only [textual]
        exact Result.bind_eq_ok.mpr ⟨tail, inductionHypothesis restRead, same⟩

/-- A source has the same value when the resources come in another order. -/
theorem value_perm {source : Source} {value : Node}
    (resolved : source.value renderer bound before = .ok value) (reordered : before.Perm others) :
    source.value renderer bound others = .ok value := by
  cases source with
  | literal text => exact resolved
  | field place => exact SourceField.read_perm resolved reordered
  | combined places template =>
      rw [Source.value] at resolved ⊢
      obtain ⟨texts, read, rendered⟩ := Result.bind_eq_ok.mp resolved
      exact Result.bind_eq_ok.mpr ⟨texts, readTexts_perm read reordered, rendered⟩

end Source

namespace Rule

variable {rule : Rule} {rules : List Rule} {order : List Nat}

/-- A rule that acts on some resources acts on them in each order. -/
theorem exists_acts_perm (acts : rule.Acts renderer bound before after)
    (reordered : before.Perm others) : ∃ left, rule.Acts renderer bound others left := by
  obtain ⟨resolved, changes⟩ := acts
  have each := Target.exists_changes_iff.mp ⟨after, changes⟩
  obtain ⟨left, reorderedChanges⟩ := Target.exists_changes_iff.mpr fun resource member =>
    each resource (reordered.mem_iff.mpr member)
  exact ⟨left, .intro (Source.value_perm resolved reordered) reorderedChanges⟩

/-- On resources in another order a rule leaves its result in that order. -/
theorem Acts.arrange (acts : rule.Acts renderer bound before after)
    (permutes : order.Perm (List.range before.length)) :
    rule.Acts renderer bound (arrange order before) (arrange order after) := by
  obtain ⟨resolved, changes⟩ := acts
  exact .intro (Source.value_perm resolved (perm_arrange permutes)) (arrange_forall₂ changes order)

/-- A rule that stops at some resources also stops at them in another order. -/
theorem Stops.arrange {cause : Cause} (stops : rule.Stops renderer bound before after cause)
    (permutes : order.Perm (List.range before.length)) :
    ∃ left other, rule.Stops renderer bound (arrange order before) left other := by
  rcases rule.acts_or_stops renderer bound (Graft.arrange order before) with ⟨left, acts⟩ | stopped
  · obtain ⟨back, actsBefore⟩ := exists_acts_perm acts (perm_arrange permutes).symm
    cases stops.apply_eq.symm.trans actsBefore.apply_eq
  · exact stopped

/-- Rules that ran also run on the resources in another order and leave their result in it. -/
theorem Ran.arrange (ran : Ran renderer bound rules before after)
    (permutes : order.Perm (List.range before.length)) :
    Ran renderer bound rules (arrange order before) (arrange order after) ∧
      before.length = after.length := by
  induction ran with
  | nil resources => exact ⟨.nil _, rfl⟩
  | @cons rule rest before middle after acts _ inductionHypothesis =>
      have length : before.length = middle.length := by
        obtain ⟨_, changes⟩ := acts
        exact changes.length_eq
      obtain ⟨others, restLength⟩ := inductionHypothesis (length ▸ permutes)
      exact ⟨.cons (acts.arrange permutes) others, length.trans restLength⟩

/-- A run over resources in another order fails at the same rule as the run over the resources as
they are, or succeeds as that one does, and then leaves the same resources in the other order. -/
theorem runAll_arrange {resources : List Resource}
    (permutes : order.Perm (List.range resources.length)) :
    let run := runAll renderer bound rules resources
    let arranged := runAll renderer bound rules (arrange order resources)
    arranged.failure?.map Failure.rule = run.failure?.map Failure.rule ∧
      (run.failure? = none → arranged.resources = arrange order run.resources) := by
  intro run arranged
  rcases ran_or_stops renderer bound rules resources with
    ⟨after, ran⟩ | ⟨earlier, rule, later, middle, after, cause, split, ran, stops⟩
  · have runs : run = ⟨after, none⟩ := ran.runAll_eq
    have arrangedRuns : arranged = ⟨Graft.arrange order after, none⟩ :=
      (ran.arrange permutes).1.runAll_eq
    rw [runs, arrangedRuns]
    exact ⟨rfl, fun _ => rfl⟩
  · obtain ⟨arrangedRan, length⟩ := ran.arrange permutes
    obtain ⟨left, other, arrangedStops⟩ := stops.arrange (length ▸ permutes)
    have runs : run = ⟨after, some ⟨earlier.length, cause⟩⟩ := by
      rw [← ran.runAll_eq_of_stops stops later, ← split]
    have arrangedRuns : arranged = ⟨left, some ⟨earlier.length, other⟩⟩ := by
      rw [← arrangedRan.runAll_eq_of_stops arrangedStops later, ← split]
    rw [runs, arrangedRuns]
    exact ⟨rfl, fun succeeded => by cases succeeded⟩

/-- The second rule reads what the first one wrote, also where the resources come in another
order. -/
theorem runAll_arrange_rotated :
    let ofKind (kind : Option String) : Matcher :=
      ⟨none, none, none, kind, none, none, none, none, ""⟩
    let name : Path := ⟨[[.key "metadata", .key "name"]], "metadata.name"⟩
    let owner : Path := ⟨[[.key "metadata", .key "owner"]], "metadata.owner"⟩
    let rules : List Rule :=
      [⟨.field ⟨ofKind (some "Pod"), name⟩, ⟨ofKind none, [⟨owner, none⟩]⟩⟩,
        ⟨.combined [⟨ofKind (some "Role"), owner⟩, ⟨ofKind (some "Role"), name⟩]
            "\x7b\x7b0\x7d\x7d-\x7b\x7b1\x7d\x7d",
          ⟨ofKind none, [⟨name, none⟩]⟩⟩]
    let resource (kind name : String) : Resource :=
      ⟨.mapping [("kind", .text kind), ("metadata", .mapping [("name", .text name)])]⟩
    let resources := [resource "Pod" "a", resource "Service" "b", resource "Role" "c"]
    let run := runAll Template.render 16 rules resources
    let arranged := runAll Template.render 16 rules (arrange [2, 0, 1] resources)
    [2, 0, 1].Perm (List.range resources.length) ∧ run.failure? = none ∧
      arranged.failure?.map Failure.rule = run.failure?.map Failure.rule ∧
      arranged.resources = arrange [2, 0, 1] run.resources := by
  intro ofKind name owner rules resource resources run arranged
  have permutes : [2, 0, 1].Perm (List.range resources.length) := by decide
  have succeeded : run.failure? = none := by decide +kernel
  obtain ⟨sameRule, sameResources⟩ := runAll_arrange permutes
  exact ⟨permutes, succeeded, sameRule, sameResources succeeded⟩

end Rule

end Graft
