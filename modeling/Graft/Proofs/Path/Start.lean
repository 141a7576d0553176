/-
This file shows that what a path does in a mapping depends on the entry that it starts at, and
that a write leaves the other entries of the root as they are.
-/

import Graft.Proofs.Path.Halt

namespace Graft

open Graft.Path (Failure)

/-- The segment that a path starts with. -/
def Path.start? (path : Path) : Option Segment := path.spans.head?.bind List.head?

/-- A path that starts with a segment has it at the front of its first span. -/
theorem Path.spans_of_start? {path : Path} {segment : Segment}
    (starts : path.start? = some segment) :
    ∃ rest others, path.spans = (segment :: rest) :: others := by
  rw [Path.start?] at starts
  cases spans : path.spans with
  | nil =>
      rw [spans] at starts
      cases starts
  | cons span others =>
      rw [spans] at starts
      cases span with
      | nil => cases starts
      | cons first rest =>
          obtain rfl := Option.some.inj starts
          exact ⟨rest, others, rfl⟩

namespace Node

variable {bound : Nat} {name : String} {value node tree : Node}

/-- A child placed where a segment leads leaves the entries under other keys alone. -/
theorem entry?_place_address {segment : Segment} {step : Step}
    (named : node.address segment = some step) (other : segment ≠ .key name) (child : Node) :
    entry? (node.place step child) name = node.entry? name := by
  cases node with
  | mapping entries =>
      cases segment with
      | key key =>
          obtain rfl := Option.some.inj named
          have different : name ≠ key := by
            rintro rfl
            exact other rfl
          show Entries.find? name (Entries.put key child entries) = Entries.find? name entries
          exact Entries.find?_put_other different child entries
      | index _ | predicate _ _ => cases named
  | sequence items =>
      cases step with
      | key key => rfl
      | position index =>
          rw [place]
          split <;> rfl
  | text _ | number _ | boolean _ | null => cases segment <;> cases named

/-- A null that becomes the container of a segment has no entries either way. -/
theorem entry?_rooted (node : Node) (segment : Segment) (name : String) :
    entry? (node.rooted segment) name = node.entry? name := by
  by_cases null : node = .null
  · subst null
    cases segment <;> rfl
  · rw [rooted_of_ne_null null]

/-- A write along a route leaves the entries of the root alone under other keys than the one it
starts with. -/
theorem entry?_of_route {segment : Segment} {rest : Span} {steps : List Step}
    (other : segment ≠ .key name) (route : Route value node (segment :: rest) steps tree) :
    tree.entry? name = node.entry? name := by
  cases route with
  | last stores => exact entry?_place_address stores.address other value
  | through advances _ => exact entry?_place_address advances.address other _

/-- A write that fails on its way leaves the entries of the root alone under other keys than the
one it starts with. -/
theorem entry?_of_halts {segment : Segment} {rest : Span} {failure : Failure}
    (other : segment ≠ .key name) (halts : Halts value failure node (segment :: rest) tree) :
    tree.entry? name = node.entry? name := by
  cases halts with
  | refused _ => rfl
  | blocked _ => rfl
  | through advances _ => exact entry?_place_address advances.address other _

/-- Whether or not a write in one document succeeds, the entries of the root stay under other keys
than the one it starts with. -/
theorem entry?_writeSpan {span : Span} (other : span.head? ≠ some (.key name))
    (node value : Node) : entry? (node.writeSpan span value).tree name = node.entry? name := by
  cases span with
  | nil => rfl
  | cons segment rest =>
      have different : segment ≠ .key name := fun same => other (congrArg some same)
      rw [← node.entry?_rooted segment]
      rcases (node.writeSpan (segment :: rest) value).done_or_failed with done | ⟨failure, failed⟩
      · obtain ⟨steps, route⟩ := writeSpan_eq_done_iff.mp done
        exact entry?_of_route different route
      · exact entry?_of_halts different (writeSpan_eq_failed_iff.mp failed)

/-- A text that is put in the place of a nested document leaves the entries of the root alone under
other keys than the one that leads to the document. -/
theorem entry?_placeAt_nested {span : Span} {steps : List Step} {holder document : Node}
    (other : span.head? ≠ some (.key name)) (traced : node.trace span = .ok (steps, holder))
    (nested : holder.nestedDocument span = .ok document) (written : String) :
    entry? (node.placeAt steps (.text written)) name = node.entry? name := by
  cases span with
  | nil =>
      -- The root holds the nested document, so it is a scalar before and after the write.
      cases traced
      have scalar := kind_of_nestedDocument nested
      cases node with
      | mapping _ | sequence _ => cases scalar
      | text _ | number _ | boolean _ | null => rfl
  | cons segment segments =>
      obtain ⟨step, child, others, located, _, rfl⟩ := trace_cons_eq_ok_iff.mp traced
      obtain ⟨named, found⟩ := locate_eq_ok_iff.mp located
      simp only [placeAt, found]
      exact entry?_place_address named (fun same => other (congrArg some same)) _

/-- Whether or not a write succeeds, the entries of the root stay under other keys than the one it
starts with. -/
theorem entry?_write {path : Path} (other : path.start? ≠ some (.key name)) (node value : Node)
    (bound : Nat) : entry? (node.write path value bound).tree name = node.entry? name := by
  rw [write]
  rw [Path.start?] at other
  cases spans : path.spans with
  | nil => rfl
  | cons span rest =>
      rw [spans] at other
      have different : span.head? ≠ some (.key name) := other
      by_cases more : rest = []
      · subst more
        exact entry?_writeSpan different node value
      · rcases (node.writeSpans bound 0 value (span :: rest)).done_or_failed with
          done | ⟨failure, failed⟩
        · obtain ⟨_, steps, holder, document, edited, traced, nested, _, placed⟩ :=
            (writeSpans_cons_eq_done_iff more).mp done
          rw [placed]
          exact entry?_placeAt_nested different traced nested _
        · rw [unchanged_of_nested more failed]

/-- A write that succeeds leaves the entries of the root alone under other keys than the one it
starts with. -/
theorem entry?_of_write {path : Path} (other : path.start? ≠ some (.key name))
    (written : node.write path value bound = .done tree) :
    tree.entry? name = node.entry? name := by
  have kept := entry?_write other node value bound
  rw [written] at kept
  exact kept

/-- Mappings with the same entry under the key that a span starts with are traced alike. -/
theorem trace_of_entry {entries others : List (String × Node)}
    (same : Entries.find? name others = Entries.find? name entries) (rest : Span) :
    (Node.mapping others).trace (.key name :: rest) =
      (Node.mapping entries).trace (.key name :: rest) := by
  rw [trace, trace, locate_key, locate_key, same]

/-- A path that starts with a key leads to the same node in each mapping with the same entry. -/
theorem read_of_entry {path : Path} {entries others : List (String × Node)}
    (starts : path.start? = some (.key name))
    (same : Entries.find? name others = Entries.find? name entries) :
    (Node.mapping others).read path bound = (Node.mapping entries).read path bound := by
  obtain ⟨rest, further, spans⟩ := Path.spans_of_start? starts
  have resolved : (Node.mapping others).resolve (.key name :: rest) =
      (Node.mapping entries).resolve (.key name :: rest) := by
    rw [resolve, resolve, trace_of_entry same]
  rw [read, read, spans]
  cases further with
  | nil => exact resolved
  | cons next further =>
      simp only [readSpans]
      rw [resolved]

/-- A write in one document that starts with a key puts the same child under it in each mapping
with the same entry. -/
theorem exists_put_of_writeSpan {entries : List (String × Node)} {child : Node} {rest : Span}
    (present : Entries.find? name entries = some child)
    (written : (Node.mapping entries).writeSpan (.key name :: rest) value = .done tree) :
    ∃ changed, ∀ others, Entries.find? name others = some child →
      (Node.mapping others).writeSpan (.key name :: rest) value =
        .done (.mapping (Entries.put name changed others)) := by
  obtain ⟨steps, route⟩ := writeSpan_eq_done_iff.mp written
  change Route value (.mapping entries) (.key name :: rest) steps tree at route
  have done {others : List (String × Node)} {changed : Node} {steps : List Step}
      (route : Route value (.mapping others) (.key name :: rest) steps
        (.mapping (Entries.put name changed others))) :
      (Node.mapping others).writeSpan (.key name :: rest) value =
        .done (.mapping (Entries.put name changed others)) :=
    writeSpan_eq_done_iff.mpr ⟨steps, route⟩
  cases route with
  | last stores =>
      refine ⟨value, fun others here => ?_⟩
      have inside : (Node.mapping others).child? (.key name) = some child := here
      have again : Stores value (.mapping others) (.key name) (.key name) := by
        cases stores with
        | replaced named found allowed =>
            obtain rfl := Option.some.inj named
            obtain rfl := Option.some.inj (present.symm.trans found)
            exact .replaced rfl inside fun _ => allowed rfl
        | added missing => cases missing.symm.trans present
      exact done (.last again)
  | @through _ entered changed _ next rest step steps advances below =>
      refine ⟨changed, fun others here => ?_⟩
      have inside : (Node.mapping others).child? (.key name) = some child := here
      have again : Advances next (.mapping others) (.key name) (.key name) entered := by
        cases advances with
        | kept named found suits =>
            obtain rfl := Option.some.inj named
            obtain rfl := Option.some.inj (present.symm.trans found)
            exact .kept rfl inside suits
        | filled named found =>
            obtain rfl := Option.some.inj named
            obtain rfl := Option.some.inj (present.symm.trans found)
            exact .filled rfl inside
        | added missing => cases missing.symm.trans present
      exact done (.through again below)

/-- A write that starts with a key puts the same child under it in each mapping with the same
entry. -/
theorem exists_put_of_write {path : Path} {entries : List (String × Node)} {child : Node}
    (starts : path.start? = some (.key name)) (present : Entries.find? name entries = some child)
    (written : (Node.mapping entries).write path value bound = .done tree) :
    ∃ changed, ∀ others, Entries.find? name others = some child →
      (Node.mapping others).write path value bound =
        .done (.mapping (Entries.put name changed others)) := by
  obtain ⟨rest, further, spans⟩ := Path.spans_of_start? starts
  simp only [write, spans] at written ⊢
  by_cases more : further = []
  · subst more
    exact exists_put_of_writeSpan present written
  · obtain ⟨room, steps, holder, document, edited, traced, nested, changed, -⟩ :=
      (writeSpans_cons_eq_done_iff more).mp written
    obtain ⟨step, found, below, located, _, rfl⟩ := trace_cons_eq_ok_iff.mp traced
    obtain ⟨named, _⟩ := locate_eq_ok_iff.mp located
    obtain rfl := Option.some.inj named
    refine ⟨child.placeAt below (.text (Yaml.render edited)), fun others here => ?_⟩
    refine (writeSpans_cons_eq_done_iff more).mpr ⟨room, .key name :: below, holder, document,
      edited, ?_, nested, changed, ?_⟩
    · rw [trace_of_entry (here.trans present.symm)]
      exact traced
    · have inside : (Node.mapping others).child? (.key name) = some child := here
      simp only [placeAt, inside]
      rfl

end Node

end Graft
