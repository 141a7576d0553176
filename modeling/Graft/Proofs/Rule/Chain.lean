/-
This file follows a value along rules of which each copies what the one before it wrote.
-/

import Graft.Proofs.Path.Start
import Graft.Proofs.Path.Stable
import Graft.Proofs.Rule.Order
import Graft.Proofs.Selector.Metadata

namespace Graft

variable {bound : Nat} {value : Node} {before middle after : List Resource}

namespace SourceField

/-- The target that replaces what is at a place as a whole. -/
def asTarget (place : SourceField) : Target := ⟨place.selected, [⟨place.path, none⟩]⟩

/-- A place relays values when its path lies in one document, has no predicate and does not start
at the metadata that matchers look at. -/
structure Relays (place : SourceField) : Prop where
  single : ∃ span, place.path.spans = [span]
  plain : place.path.Plain
  beside : ∀ key ∈ Resource.metadataKeys, place.path.start? ≠ some (.key key)

/-- A changed resource holds a value at a place when its metadata are the old ones and, if the
matcher of the place accepts it, the value is read there. -/
structure Holds (place : SourceField) (bound : Nat) (value : Node) (old new : Resource) :
    Prop where
  unmoved : Resource.SameMetadata new old
  reads : place.selected.accepts new = .ok true → new.root.read place.path bound = .ok value

variable {place : SourceField}

/-- What is written at a place that relays values is read there, and no matcher sees the write. -/
theorem Relays.holds {old new : Resource} (relays : place.Relays)
    (changes : place.asTarget.Changes bound value old new) : place.Holds bound value old new := by
  cases changes with
  | other refused =>
      refine ⟨.refl old, fun accepted => ?_⟩
      cases accepted.symm.trans refused
  | written _ written =>
      have done := Target.written_whole_iff.mp written
      refine ⟨fun key member => Node.entry?_of_write (relays.beside key member) done, fun _ => ?_⟩
      -- A write in one document puts no document into text.
      have nothing : old.root.rendered bound 0 value place.path.spans = [] := by
        obtain ⟨span, single⟩ := relays.single
        rw [single]
        rfl
      refine Node.readSpans_of_writeSpans relays.plain.stable (fun document member => ?_) done
      rw [nothing] at member
      cases member

/-- Each changed resource that is accepted has the value. -/
theorem read_of_holds {resource : Resource}
    (holds : List.Forall₂ (place.Holds bound value) before after) (member : resource ∈ after)
    (accepted : place.selected.accepts resource = .ok true) :
    resource.root.read place.path bound = .ok value := by
  induction holds with
  | nil => cases member
  | cons first _ inductionHypothesis =>
      rcases List.mem_cons.mp member with rfl | later
      · exact first.reads accepted
      · exact inductionHypothesis later

/-- The value that resources hold at a place is the one that is read in the resource picked
there. -/
theorem eq_of_picks {given : Node} {resource : Resource}
    (holds : List.Forall₂ (place.Holds bound value) before after)
    (picks : place.selected.Picks after resource)
    (read : resource.root.read place.path bound = .ok given) : given = value := by
  have chosen : resource ∈ place.selected.accepted after := by
    rw [picks.only]
    exact List.mem_singleton_self resource
  obtain ⟨member, accepted⟩ := List.mem_filter.mp chosen
  cases read.symm.trans (read_of_holds holds member (of_decide_eq_true accepted))
  rfl

/-- Resources that hold a value after two changes hold it after both as one. -/
theorem holds_trans {earlier : SourceField} {given : Node}
    (first : List.Forall₂ (earlier.Holds bound given) before middle)
    (second : List.Forall₂ (place.Holds bound value) middle after) :
    List.Forall₂ (place.Holds bound value) before after := by
  induction first generalizing after with
  | nil =>
      cases second
      exact .nil
  | cons head _ inductionHypothesis =>
      cases second with
      | cons next others =>
          exact .cons ⟨next.unmoved.trans head.unmoved, next.reads⟩ (inductionHypothesis others)

end SourceField

namespace Rule

/-- The rule that copies what is at one place to another one. -/
def copy (source place : SourceField) : Rule := ⟨.field source, place.asTarget⟩

/-- The rules that copy from a place to the first of others and from each of them to the next. -/
def chain : SourceField → List SourceField → List Rule
  | _, [] => []
  | source, place :: rest => copy source place :: chain place rest

variable {renderer : Template.Renderer} {source place : SourceField} {places : List SourceField}

/-- A rule that copies reads one resource, and the others hold its value afterwards. -/
theorem holds_of_copy (relays : place.Relays)
    (acts : (copy source place).Acts renderer bound before after) :
    ∃ value resource, source.selected.Picks before resource ∧
      resource.root.read source.path bound = .ok value ∧
      List.Forall₂ (place.Holds bound value) before after := by
  obtain ⟨resolved, changes⟩ := acts
  obtain ⟨resource, picks, read⟩ := SourceField.read_eq_ok_iff.mp resolved
  exact ⟨_, resource, picks, read, changes.imp fun _ _ single => relays.holds single⟩

/-- After a chain the last place holds the value that was at the first one before it. -/
theorem holds_of_chain (relays : ∀ stop ∈ places ++ [place], stop.Relays)
    (ran : Ran renderer bound (chain source (places ++ [place])) before after) :
    ∃ value resource, source.selected.Picks before resource ∧
      resource.root.read source.path bound = .ok value ∧
      List.Forall₂ (place.Holds bound value) before after := by
  induction places generalizing source before with
  | nil =>
      exact holds_of_copy (relays place List.mem_cons_self) (ran_single_iff.mp ran)
  | cons next rest inductionHypothesis =>
      obtain ⟨nextRelays, restRelays⟩ := List.forall_mem_cons.mp relays
      cases ran with
      | cons acts others =>
          obtain ⟨value, resource, picks, read, hop⟩ := holds_of_copy nextRelays acts
          obtain ⟨given, reached, picksNext, readNext, rest⟩ :=
            inductionHypothesis restRelays others
          obtain rfl := SourceField.eq_of_picks hop picksNext readNext
          exact ⟨given, resource, picks, read, SourceField.holds_trans hop rest⟩

/-- A value goes along a chain of rules that each copy from the place that the rule before wrote:
after a run that succeeds, each resource that the last matcher accepts, which are the same as
before it, has at the last path the node that the first path led to before the run in the one
resource that the first matcher accepts. -/
theorem runAll_chain (relays : ∀ stop ∈ places ++ [place], stop.Relays)
    (run : runAll renderer bound (chain source (places ++ [place])) before = ⟨after, none⟩) :
    ∃ value resource, source.selected.Picks before resource ∧
      resource.root.read source.path bound = .ok value ∧
      List.Forall₂ (fun old new =>
        place.selected.accepts new = place.selected.accepts old ∧
          (place.selected.accepts new = .ok true →
            new.root.read place.path bound = .ok value)) before after := by
  obtain ⟨value, resource, picks, read, holds⟩ := holds_of_chain relays (ran_of_runAll run)
  refine ⟨value, resource, picks, read, holds.imp fun old new single => ?_⟩
  exact ⟨Matcher.accepts_congr single.unmoved place.selected, single.reads⟩

/-- A mapping goes from one resource into a mapping of another one, and from there in the place of
that mapping and into the first resource. -/
theorem runAll_chain_ports :
    let ofKind (kind : Option String) : Matcher :=
      ⟨none, none, none, kind, none, none, none, none, ""⟩
    let source : SourceField := ⟨ofKind (some "Pod"), ⟨[[.key "spec"]], "spec"⟩⟩
    let inner : SourceField :=
      ⟨ofKind (some "Service"), ⟨[[.key "data", .key "ports", .index 0]], "data.ports.0"⟩⟩
    let outer : SourceField := ⟨ofKind none, ⟨[[.key "data"]], "data"⟩⟩
    let before : List Resource :=
      [⟨.mapping [("kind", .text "Pod"), ("spec", .mapping [("port", .number (.whole 80))])]⟩,
        ⟨.mapping [("data", .mapping [("ports", .sequence [.null])]), ("kind", .text "Service")]⟩]
    let run := runAll Template.render 16 (chain source [inner, outer]) before
    run.failure? = none ∧
      ∃ value resource, source.selected.Picks before resource ∧
        resource.root.read source.path 16 = .ok value ∧
        List.Forall₂ (fun old new =>
          outer.selected.accepts new = outer.selected.accepts old ∧
            (outer.selected.accepts new = .ok true →
              new.root.read outer.path 16 = .ok value)) before run.resources := by
  intro ofKind source inner outer before run
  have innerRelays : inner.Relays := by
    refine ⟨⟨_, rfl⟩, ?_, by decide⟩
    intro span member
    obtain rfl := List.mem_singleton.mp member
    simp [Span.Plain]
  have outerRelays : outer.Relays := by
    refine ⟨⟨_, rfl⟩, ?_, by decide⟩
    intro span member
    obtain rfl := List.mem_singleton.mp member
    simp [Span.Plain]
  have relays : ∀ stop ∈ [inner] ++ [outer], stop.Relays :=
    List.forall_mem_cons.mpr ⟨innerRelays, List.forall_mem_singleton.mpr outerRelays⟩
  have succeeded : run.failure? = none := by decide +kernel
  exact ⟨succeeded, runAll_chain relays (Run.eq_of_failure? succeeded)⟩

end Rule

end Graft
