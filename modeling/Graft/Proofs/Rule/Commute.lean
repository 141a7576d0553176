/-
This file shows that two rules which write texts below different keys can run in either order.
-/

import Graft.Proofs.Path.Start
import Graft.Proofs.Rule.Run
import Graft.Proofs.Selector.Metadata
import Mathlib.Data.Set.Defs

namespace Graft

variable {bound : Nat} {keys firstKeys secondKeys : Set String}

namespace TargetField

variable {field : TargetField} {value root given : Node}

/-- A field gets the same value in a tree where the same is read at it. -/
theorem Gives.of_read {other : Node} (gives : field.Gives bound value root given)
    (same : other.read field.path bound = root.read field.path bound) :
    field.Gives bound value other given := by
  cases gives with
  | whole entire => exact .whole entire
  | spliced narrowed found textual given matched =>
      exact .spliced narrowed (same.trans found) textual given matched

/-- A field starts at a key that is one of some keys. -/
def Below (field : TargetField) (keys : Set String) : Prop :=
  ∃ key ∈ keys, field.path.start? = some (.key key)

/-- A field that starts at a key does the same to each mapping with the same entry: it gets the
same value, and its write puts the same child under the key. -/
theorem exists_put {key : String} {entries : List (String × Node)} {child middle : Node}
    (starts : field.path.start? = some (.key key))
    (present : Entries.find? key entries = some child)
    (gives : field.Gives bound value (.mapping entries) given)
    (written : (Node.mapping entries).write field.path given bound = .done middle) :
    ∃ changed, ∀ others, Entries.find? key others = some child →
      field.Gives bound value (.mapping others) given ∧
        (Node.mapping others).write field.path given bound =
          .done (.mapping (Entries.put key changed others)) := by
  obtain ⟨changed, puts⟩ := Node.exists_put_of_write starts present written
  refine ⟨changed, fun others here => ⟨?_, puts others here⟩⟩
  exact gives.of_read (Node.read_of_entry starts (here.trans present.symm))

end TargetField

namespace Target

variable {value other : Node} {fields others : List TargetField}

/-- Fields below some keys keep the keys of a root in their order and the values of the other
keys, and they do the same where another key has another value. -/
theorem Written.beside {entries : List (String × Node)} {tree : Node}
    (below : ∀ field ∈ fields, field.Below keys)
    (present : ∀ key ∈ keys, key ∈ Entries.keys entries)
    (written : Written bound value fields (.mapping entries) tree) :
    ∃ changed, tree = .mapping changed ∧ Entries.keys changed = Entries.keys entries ∧
      ∀ key ∉ keys, Entries.find? key changed = Entries.find? key entries ∧
        (key ∈ Entries.keys entries → ∀ child,
          Written bound value fields (.mapping (Entries.put key child entries))
            (.mapping (Entries.put key child changed))) := by
  generalize start : Node.mapping entries = root at written
  induction written generalizing entries with
  | nil root =>
      subst start
      exact ⟨entries, rfl, rfl, fun key _ => ⟨rfl, fun _ child => .nil _⟩⟩
  | @cons field rest root given middle last gives written _ inductionHypothesis =>
      subst start
      obtain ⟨⟨name, member, starts⟩, restBelow⟩ := List.forall_mem_cons.mp below
      obtain ⟨old, here⟩ := Entries.exists_find?_of_mem (present name member)
      obtain ⟨new, puts⟩ := TargetField.exists_put starts here gives written
      cases written.symm.trans (puts entries here).2
      have sameKeys := Entries.keys_put_of_mem (present name member) new
      obtain ⟨changed, rfl, keysKept, beside⟩ := inductionHypothesis restBelow
        (fun key keyMember => by rw [sameKeys]; exact present key keyMember) rfl
      refine ⟨changed, rfl, keysKept.trans sameKeys, fun key outside => ?_⟩
      have different : key ≠ name := by
        rintro rfl
        exact outside member
      obtain ⟨kept, goes⟩ := beside key outside
      refine ⟨kept.trans (Entries.find?_put_other different new entries), fun inside child => ?_⟩
      have exchanged := Entries.put_comm different child new inside (present name member)
      have hereAgain : Entries.find? name (Entries.put key child entries) = some old := by
        rw [Entries.find?_put_other (Ne.symm different), here]
      obtain ⟨givesAgain, writtenAgain⟩ := puts _ hereAgain
      have rest := goes (by rw [sameKeys]; exact inside) child
      rw [exchanged] at rest
      exact .cons givesAgain writtenAgain rest

/-- Fields below some keys and then fields below other keys leave the same tree as in the other
order. -/
theorem Written.swap {entries : List (String × Node)} {middle last : Node}
    (apart : ∀ key ∈ firstKeys, key ∉ secondKeys)
    (firstBelow : ∀ field ∈ fields, field.Below firstKeys)
    (secondBelow : ∀ field ∈ others, field.Below secondKeys)
    (firstPresent : ∀ key ∈ firstKeys, key ∈ Entries.keys entries)
    (secondPresent : ∀ key ∈ secondKeys, key ∈ Entries.keys entries)
    (first : Written bound value fields (.mapping entries) middle)
    (second : Written bound other others middle last) :
    ∃ between, Written bound other others (.mapping entries) between ∧
      Written bound value fields between last := by
  induction others generalizing entries middle with
  | nil =>
      cases second
      exact ⟨.mapping entries, .nil _, first⟩
  | cons field rest inductionHypothesis =>
      obtain ⟨⟨name, member, starts⟩, restBelow⟩ := List.forall_mem_cons.mp secondBelow
      obtain ⟨changed, rfl, keysKept, beside⟩ := first.beside firstBelow firstPresent
      obtain ⟨kept, goes⟩ := beside name fun inside => apart name inside member
      obtain ⟨old, here⟩ := Entries.exists_find?_of_mem (secondPresent name member)
      cases second with
      | cons gives written restWritten =>
          obtain ⟨new, puts⟩ := TargetField.exists_put starts (kept.trans here) gives written
          cases written.symm.trans (puts changed (kept.trans here)).2
          obtain ⟨givesFirst, writtenFirst⟩ := puts entries here
          have sameKeys := Entries.keys_put_of_mem (secondPresent name member) new
          obtain ⟨between, restFirst, after⟩ := inductionHypothesis restBelow
            (fun key inside => by rw [sameKeys]; exact firstPresent key inside)
            (fun key inside => by rw [sameKeys]; exact secondPresent key inside)
            (goes (secondPresent name member) new) restWritten
          exact ⟨between, .cons givesFirst writtenFirst restFirst, after⟩

/-- A target writes below some keys when each of its fields does. -/
def Below (target : Target) (keys : Set String) : Prop :=
  ∀ field ∈ target.fields, field.Below keys

end Target

/-- The root of a resource is a mapping that has some keys. -/
def Resource.Has (resource : Resource) (keys : Set String) : Prop :=
  ∃ entries, resource.root = .mapping entries ∧ ∀ key ∈ keys, key ∈ Entries.keys entries

namespace Target

variable {first second target : Target} {value other : Node}

/-- A target below keys without metadata keeps the metadata of a resource. -/
theorem Changes.sameMetadata {resource changed : Resource} (below : target.Below keys)
    (beside : ∀ key ∈ Resource.metadataKeys, key ∉ keys) (has : resource.Has keys)
    (changes : target.Changes bound value resource changed) :
    Resource.SameMetadata changed resource := by
  cases changes with
  | other _ => exact .refl resource
  | written _ written =>
      obtain ⟨entries, root, present⟩ := has
      rw [root] at written
      obtain ⟨left, rfl, -, kept⟩ := written.beside below present
      intro key member
      rw [root]
      exact (kept key (beside key member)).1

/-- Two targets below different keys, both without metadata, change a resource alike in either
order. -/
theorem Changes.swap {resource middle last : Resource}
    (apart : ∀ key ∈ firstKeys, key ∉ secondKeys)
    (firstBelow : first.Below firstKeys) (secondBelow : second.Below secondKeys)
    (firstBeside : ∀ key ∈ Resource.metadataKeys, key ∉ firstKeys)
    (secondBeside : ∀ key ∈ Resource.metadataKeys, key ∉ secondKeys)
    (firstHas : resource.Has firstKeys) (secondHas : resource.Has secondKeys)
    (changes : first.Changes bound value resource middle)
    (others : second.Changes bound other middle last) :
    ∃ between, second.Changes bound other resource between ∧
      first.Changes bound value between last := by
  have unmoved := changes.sameMetadata firstBelow firstBeside firstHas
  cases changes with
  | other refused =>
      have still := others.sameMetadata secondBelow secondBeside secondHas
      exact ⟨last, others, .other ((Matcher.accepts_congr still first.selected).trans refused)⟩
  | written accepted written =>
      have sameAnswer := Matcher.accepts_congr unmoved second.selected
      cases others with
      | other refused =>
          exact ⟨resource, .other (sameAnswer.symm.trans refused), .written accepted written⟩
      | written acceptedSecond writtenSecond =>
          obtain ⟨entries, root, firstPresent⟩ := firstHas
          obtain ⟨_, sameRoot, secondPresent⟩ := secondHas
          cases root.symm.trans sameRoot
          rw [root] at written
          obtain ⟨tree, before, after⟩ := written.swap apart firstBelow secondBelow firstPresent
            secondPresent writtenSecond
          have writes : second.Changes bound other resource ⟨tree⟩ :=
            .written (sameAnswer.symm.trans acceptedSecond) (by rw [root]; exact before)
          have answer := writes.sameMetadata secondBelow secondBeside
            ⟨entries, root, secondPresent⟩
          exact ⟨⟨tree⟩, writes,
            .written ((Matcher.accepts_congr answer first.selected).trans accepted) after⟩

/-- Two targets below different keys, both without metadata, change resources alike in either
order. -/
theorem forall₂_changes_swap {before middle after : List Resource}
    (apart : ∀ key ∈ firstKeys, key ∉ secondKeys)
    (firstBelow : first.Below firstKeys) (secondBelow : second.Below secondKeys)
    (firstBeside : ∀ key ∈ Resource.metadataKeys, key ∉ firstKeys)
    (secondBeside : ∀ key ∈ Resource.metadataKeys, key ∉ secondKeys)
    (has : ∀ resource ∈ before, resource.Has firstKeys ∧ resource.Has secondKeys)
    (changes : List.Forall₂ (first.Changes bound value) before middle)
    (others : List.Forall₂ (second.Changes bound other) middle after) :
    ∃ between, List.Forall₂ (second.Changes bound other) before between ∧
      List.Forall₂ (first.Changes bound value) between after := by
  induction changes generalizing after with
  | nil =>
      cases others
      exact ⟨[], .nil, .nil⟩
  | cons head _ inductionHypothesis =>
      obtain ⟨⟨firstHas, secondHas⟩, restHas⟩ := List.forall_mem_cons.mp has
      cases others with
      | cons otherHead otherTail =>
          obtain ⟨resource, headBefore, headAfter⟩ := head.swap apart firstBelow secondBelow
            firstBeside secondBeside firstHas secondHas otherHead
          obtain ⟨between, tailBefore, tailAfter⟩ := inductionHypothesis restHas otherTail
          exact ⟨resource :: between, .cons headBefore tailBefore, .cons headAfter tailAfter⟩

end Target

namespace Rule

variable {first second : Rule} {firstText secondText : String} {renderer : Template.Renderer}
variable {before after : List Resource}

/-- Two rules with literal sources that ran below different keys, both without metadata, also run
in the other order with the same resources. -/
theorem Ran.swap (firstLiteral : first.source = .literal firstText)
    (secondLiteral : second.source = .literal secondText)
    (apart : ∀ key ∈ firstKeys, key ∉ secondKeys)
    (firstBelow : first.target.Below firstKeys) (secondBelow : second.target.Below secondKeys)
    (firstBeside : ∀ key ∈ Resource.metadataKeys, key ∉ firstKeys)
    (secondBeside : ∀ key ∈ Resource.metadataKeys, key ∉ secondKeys)
    (has : ∀ resource ∈ before, resource.Has firstKeys ∧ resource.Has secondKeys)
    (ran : Ran renderer bound [first, second] before after) :
    Ran renderer bound [second, first] before after := by
  obtain ⟨middle, acts, actsAgain⟩ := ran_pair_iff.mp ran
  obtain ⟨between, others, changes⟩ := Target.forall₂_changes_swap apart firstBelow secondBelow
    firstBeside secondBeside has ((acts_literal_iff firstLiteral).mp acts)
    ((acts_literal_iff secondLiteral).mp actsAgain)
  exact ran_pair_iff.mpr ⟨between, (acts_literal_iff secondLiteral).mpr others,
    (acts_literal_iff firstLiteral).mpr changes⟩

/-- Two rules with literal sources whose fields start at different keys, none of which has
metadata, can run in either order over resources that have all these keys: the one run succeeds
exactly when the other does, and both leave the same resources. -/
theorem runAll_swap (firstLiteral : first.source = .literal firstText)
    (secondLiteral : second.source = .literal secondText)
    (apart : ∀ key ∈ firstKeys, key ∉ secondKeys)
    (firstBelow : first.target.Below firstKeys) (secondBelow : second.target.Below secondKeys)
    (beside : ∀ key ∈ Resource.metadataKeys, key ∉ firstKeys ∧ key ∉ secondKeys)
    (has : ∀ resource ∈ before, resource.Has firstKeys ∧ resource.Has secondKeys) :
    runAll renderer bound [first, second] before = ⟨after, none⟩ ↔
      runAll renderer bound [second, first] before = ⟨after, none⟩ := by
  have firstBeside : ∀ key ∈ Resource.metadataKeys, key ∉ firstKeys := fun key member =>
    (beside key member).1
  have secondBeside : ∀ key ∈ Resource.metadataKeys, key ∉ secondKeys := fun key member =>
    (beside key member).2
  constructor
  · intro run
    exact ((ran_of_runAll run).swap firstLiteral secondLiteral apart firstBelow secondBelow
      firstBeside secondBeside has).runAll_eq
  · intro run
    have apartBack : ∀ key ∈ secondKeys, key ∉ firstKeys := fun key second first =>
      apart key first second
    exact ((ran_of_runAll run).swap secondLiteral firstLiteral apartBack secondBelow firstBelow
      secondBeside firstBeside fun resource member => (has resource member).symm).runAll_eq

/-- A rule that adds an item and a rule that changes a nested document leave the same resources in
either order. -/
theorem runAll_swap_image :
    let any : Matcher := ⟨none, none, none, none, none, none, none, none, ""⟩
    let pod : Matcher := ⟨none, none, none, some "Pod", none, none, none, none, ""⟩
    let image : Path :=
      ⟨[[.key "spec", .key "items", .predicate "name" "app", .key "image"]],
        "spec.items[name=app].image"⟩
    let port : Path := ⟨[[.key "data", .key "config"], [.key "port"]], "data.config|port"⟩
    let first : Rule := ⟨.literal "app:2", ⟨pod, [⟨image, none⟩]⟩⟩
    let second : Rule := ⟨.literal "81", ⟨any, [⟨port, none⟩, ⟨port, none⟩]⟩⟩
    let resource (kind : String) : Resource :=
      ⟨.mapping [("data", .mapping [("config", .text "port: 80")]), ("kind", .text kind),
        ("spec", .null)]⟩
    let before := [resource "Pod", resource "Service"]
    let run := runAll Template.render 16 [first, second] before
    run.failure? = none ∧
      runAll Template.render 16 [second, first] before = ⟨run.resources, none⟩ := by
  intro any pod image port first second resource before run
  have firstLiteral : first.source = .literal "app:2" := rfl
  have secondLiteral : second.source = .literal "81" := rfl
  have firstBelow : first.target.Below {"spec"} := by
    intro field member
    obtain rfl := List.mem_singleton.mp member
    exact ⟨"spec", rfl, rfl⟩
  have secondBelow : second.target.Below {"data"} := by
    intro field member
    obtain rfl : field = ⟨port, none⟩ := by simpa [second] using member
    exact ⟨"data", rfl, rfl⟩
  have has (kind : String) : (resource kind).Has {"spec"} ∧ (resource kind).Has {"data"} := by
    constructor
    · refine ⟨_, rfl, ?_⟩
      rintro key rfl
      simp [Entries.keys]
    · refine ⟨_, rfl, ?_⟩
      rintro key rfl
      simp [Entries.keys]
  have allHave : ∀ resource ∈ before, resource.Has {"spec"} ∧ resource.Has {"data"} :=
    List.forall_mem_cons.mpr ⟨has "Pod", List.forall_mem_singleton.mpr (has "Service")⟩
  have apart : ∀ key ∈ ({"spec"} : Set String), key ∉ ({"data"} : Set String) := by
    rintro key rfl
    show ¬ "spec" = "data"
    decide
  have beside : ∀ key ∈ Resource.metadataKeys,
      key ∉ ({"spec"} : Set String) ∧ key ∉ ({"data"} : Set String) := by
    intro key member
    constructor
    · rintro rfl
      exact absurd member (by decide)
    · rintro rfl
      exact absurd member (by decide)
  have succeeded : run.failure? = none := by decide +kernel
  have finished := Run.eq_of_failure? succeeded
  exact ⟨succeeded, (runAll_swap firstLiteral secondLiteral apart firstBelow secondBelow beside
    allHave).mp finished⟩

end Rule

end Graft
