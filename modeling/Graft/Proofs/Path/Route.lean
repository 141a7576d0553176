/-
This file describes the writes that succeed: the concrete steps that a span takes through a tree,
with what is found, filled or added at each of them.
-/

import Graft.Path.Write
import Graft.Proofs.Path.Address

namespace Graft

open Graft.Path (Failure)

/-- A segment that names a step at a node can be applied to nodes of that kind. -/
theorem Segment.appliesTo_of_address {node : Node} {segment : Segment} {step : Step}
    (named : node.address segment = some step) : segment.appliesTo node.kind = true := by
  cases node <;> cases segment <;> simp [Node.address, Segment.appliesTo, Node.kind] at named ⊢
  obtain ⟨position, found, -⟩ := named
  exact Option.isSome_of_eq_some found

/-- No segment can be applied to a null. -/
theorem Segment.appliesTo_null (segment : Segment) :
    segment.appliesTo Node.null.kind = false := by
  cases segment <;> rfl

namespace Node

/-- The ways from a node through a segment that another segment follows: a child that suits the
next segment is kept, a null one is filled, and a missing key or a predicate without a match adds
a child. -/
inductive Advances (next : Segment) : Node → Segment → Step → Node → Prop where
  | kept {node child : Node} {segment : Segment} {step : Step}
      (named : node.address segment = some step) (found : node.child? step = some child)
      (suits : next.appliesTo child.kind = true) : Advances next node segment step child
  | filled {node : Node} {segment : Segment} {step : Step}
      (named : node.address segment = some step) (found : node.child? step = some .null) :
      Advances next node segment step next.container.empty
  | added {entries : List (String × Node)} {name : String}
      (missing : Entries.find? name entries = none) :
      Advances next (.mapping entries) (.key name) (.key name) next.container.empty
  | appended {items : List Node} {key value : String}
      (unmatched : ∀ item ∈ items, item.satisfies key value = false) (named : key ≠ "")
      (wanted : next.container = .mapping) :
      Advances next (.sequence items) (.predicate key value) (.position items.length)
        (nestUnder (.text value) (Text.splitOn '.' key))

/-- Only the null is null. -/
theorem isNull_iff {node : Node} : node.isNull = true ↔ node = .null := by
  cases node <;> simp [isNull]

/-- A node other than the null is not null. -/
theorem isNull_eq_false {node : Node} (other : node ≠ .null) : node.isNull = false := by
  rw [← Bool.not_eq_true, isNull_iff]
  exact other

/-- A child is entered when it suits the next segment, or when it is null and gets filled. -/
theorem enter_eq_ok_iff {child entered : Node} {segment next : Segment} :
    child.enter segment next = .ok entered ↔
      (child = .null ∧ entered = next.container.empty) ∨
        (next.appliesTo child.kind = true ∧ entered = child) := by
  by_cases null : child = .null
  · subst null
    simp [enter, isNull, Segment.appliesTo_null, eq_comm]
  · have notNull := isNull_eq_false null
    by_cases suits : next.appliesTo child.kind = true
    · simp [enter, notNull, suits, null, eq_comm]
    · simp only [enter, notNull, suits, null, Bool.false_eq_true, if_false, false_and, or_self,
        iff_false]
      split <;> simp

/-- A mapping locates the value of a key. -/
theorem locate_key (entries : List (String × Node)) (name : String) :
    (Node.mapping entries).locate (.key name) =
      match Entries.find? name entries with
      | some child => .ok (.key name, child)
      | none => .error (.notFound name) := rfl

/-- A predicate that no item satisfies locates nothing. -/
theorem locate_unmatched {items : List Node} {key value : String}
    (unmatched : ∀ item ∈ items, item.satisfies key value = false) :
    (Node.sequence items).locate (.predicate key value) =
      .error (.noMatch (Segment.predicate key value).text) := by
  have past := List.findIdx_eq_length_of_false unmatched
  rw [locate, firstMatch?_eq, past, List.getElem?_eq_none (Nat.le_refl _)]
  rfl

/-- Where a predicate locates nothing, no item satisfies it. -/
theorem unmatched_of_locate {items : List Node} {key value : String} {failure : Failure}
    (failed : (Node.sequence items).locate (.predicate key value) = .error failure) :
    ∀ item ∈ items, item.satisfies key value = false := by
  rw [← List.findIdx_eq_length]
  rcases Nat.lt_or_ge (items.findIdx fun item => item.satisfies key value) items.length with
    inside | outside
  · have located := locate_eq_ok_iff.mpr
      ⟨(rfl : (Node.sequence items).address (.predicate key value) = _),
        List.getElem?_eq_getElem inside⟩
    rw [failed] at located
    cases located
  · exact Nat.le_antisymm List.findIdx_le_length outside

/-- The item that a predicate adds is a mapping with the field that the predicate asks for. -/
theorem itemFor?_eq_some_iff {key value : String} {required : Kind} {item : Node} :
    itemFor? key value required = some item ↔
      key ≠ "" ∧ required = .mapping ∧
        item = nestUnder (.text value) (Text.splitOn '.' key) := by
  rw [itemFor?]
  by_cases empty : key = ""
  · simp [empty]
  · have named : key.isEmpty = false := by simpa using empty
    cases required <;> simp [named, empty, @eq_comm _ item]

/-- Walking on through a segment is one of the four ways. -/
theorem advance_eq_ok_iff {node child : Node} {segment next : Segment} {step : Step} :
    node.advance segment next = .ok (step, child) ↔ Advances next node segment step child := by
  constructor
  · intro advanced
    rw [advance] at advanced
    split at advanced
    · rename_i found old located
      obtain ⟨named, present⟩ := locate_eq_ok_iff.mp located
      obtain ⟨entered, entering, same⟩ := Result.bind_eq_ok.mp advanced
      cases same
      rcases enter_eq_ok_iff.mp entering with ⟨rfl, rfl⟩ | ⟨suits, rfl⟩
      · exact .filled named present
      · exact .kept named present suits
    · rename_i failure failed
      split at advanced
      · rename_i entries name
        cases advanced
        rw [locate_key] at failed
        split at failed
        · cases failed
        · exact .added ‹_›
      · rename_i items key value
        split at advanced
        · rename_i item made
          cases advanced
          obtain ⟨named, wanted, rfl⟩ := itemFor?_eq_some_iff.mp made
          exact .appended (unmatched_of_locate failed) named wanted
        · cases advanced
      · cases advanced
  · intro advances
    cases advances with
    | kept named found suits =>
        rw [advance, locate_eq_ok_iff.mpr ⟨named, found⟩]
        exact Result.bind_eq_ok.mpr ⟨child, enter_eq_ok_iff.mpr (.inr ⟨suits, rfl⟩), rfl⟩
    | filled named found =>
        rw [advance, locate_eq_ok_iff.mpr ⟨named, found⟩]
        exact Result.bind_eq_ok.mpr ⟨_, enter_eq_ok_iff.mpr (.inl ⟨rfl, rfl⟩), rfl⟩
    | added missing => rw [advance, locate_key, missing]
    | appended unmatched named wanted =>
        rw [advance, locate_unmatched unmatched]
        simp only [itemFor?_eq_some_iff.mpr ⟨named, wanted, rfl⟩]

/-- The ways to store a value under the last segment: a child is replaced, which must have the
kind of the value if it is a value of a mapping and not null, or a new key is added. -/
inductive Stores (value : Node) : Node → Segment → Step → Prop where
  | replaced {node old : Node} {segment : Segment} {step : Step}
      (named : node.address segment = some step) (found : node.child? step = some old)
      (allowed : node.isMapping = true → old = .null ∨ old.kind = value.kind) :
      Stores value node segment step
  | added {entries : List (String × Node)} {name : String}
      (missing : Entries.find? name entries = none) :
      Stores value (.mapping entries) (.key name) (.key name)

/-- A value of a mapping can be replaced when it is null or has the kind. -/
theorem checkReplaceable_eq_ok_iff {old : Node} {segment : Segment} {kind : Kind} :
    old.checkReplaceable segment kind = .ok () ↔ old = .null ∨ old.kind = kind := by
  rw [checkReplaceable, ← isNull_iff]
  by_cases replaceable : old.isNull = true ∨ old.kind = kind
  · simp [replaceable]
  · have refused : (old.isNull || old.kind == kind) = false := by simpa using replaceable
    simp only [refused, replaceable, Bool.false_eq_true, if_false, iff_false]
    split <;> simp

/-- Storing the value is one of the two ways. -/
theorem assign_eq_ok_iff {node value tree : Node} {segment : Segment} :
    node.assign segment value = .ok tree ↔
      ∃ step, Stores value node segment step ∧ tree = node.place step value := by
  constructor
  · intro assigned
    rw [assign] at assigned
    split at assigned
    · rename_i step old located
      obtain ⟨named, found⟩ := locate_eq_ok_iff.mp located
      refine ⟨step, ?_⟩
      split at assigned
      · obtain ⟨_, checked, same⟩ := Result.bind_eq_ok.mp assigned
        cases same
        exact ⟨.replaced named found fun _ => checkReplaceable_eq_ok_iff.mp checked, rfl⟩
      · rename_i other
        cases assigned
        exact ⟨.replaced named found fun isMapping => absurd isMapping other, rfl⟩
    · rename_i failure failed
      split at assigned
      · rename_i entries name
        cases assigned
        rw [locate_key] at failed
        split at failed
        · cases failed
        · exact ⟨.key name, .added ‹_›, rfl⟩
      · cases assigned
  · rintro ⟨step, stores, rfl⟩
    cases stores with
    | replaced named found allowed =>
        rw [assign, locate_eq_ok_iff.mpr ⟨named, found⟩]
        by_cases mapping : node.isMapping = true
        · simp only [mapping, if_true]
          exact Result.bind_eq_ok.mpr
            ⟨(), checkReplaceable_eq_ok_iff.mpr (allowed mapping), rfl⟩
        · simp only [mapping]
          rfl
    | added missing => rw [assign, locate_key, missing]

/-- The steps of a write that succeeds, from the tree before to the tree after it. -/
inductive Route (value : Node) : Node → Span → List Step → Node → Prop where
  | last {node : Node} {segment : Segment} {step : Step} (stores : Stores value node segment step) :
      Route value node [segment] [step] (node.place step value)
  | through {node child changed : Node} {segment next : Segment} {rest : Span} {step : Step}
      {steps : List Step} (advances : Advances next node segment step child)
      (below : Route value child (next :: rest) steps changed) :
      Route value node (segment :: next :: rest) (step :: steps) (node.place step changed)

/-- A write along a span succeeds exactly when there is a route, and leaves its last tree. -/
theorem writeSegments_eq_done_iff {node value tree : Node} {span : Span} :
    node.writeSegments value span = .done tree ↔ ∃ steps, Route value node span steps tree := by
  constructor
  · intro written
    induction span generalizing node tree with
    | nil => cases written
    | cons segment rest inductionHypothesis =>
        cases rest with
        | nil =>
            rw [writeSegments] at written
            cases assigned : node.assign segment value with
            | error failure =>
                rw [assigned] at written
                cases written
            | ok changed =>
                rw [assigned] at written
                cases written
                obtain ⟨step, stores, rfl⟩ := assign_eq_ok_iff.mp assigned
                exact ⟨[step], .last stores⟩
        | cons next rest =>
            rw [writeSegments] at written
            cases advanced : node.advance segment next with
            | error failure =>
                rw [advanced] at written
                cases written
            | ok pair =>
                obtain ⟨step, child⟩ := pair
                rw [advanced] at written
                obtain ⟨same, succeeded⟩ := Edit.mk.inj written
                have below : child.writeSegments value (next :: rest) =
                    .done (child.writeSegments value (next :: rest)).tree := by
                  rw [Edit.done, ← succeeded]
                obtain ⟨steps, route⟩ := inductionHypothesis below
                rw [← same]
                exact ⟨step :: steps, .through (advance_eq_ok_iff.mp advanced) route⟩
  · rintro ⟨steps, route⟩
    induction route with
    | last stores =>
        rw [writeSegments, assign_eq_ok_iff.mpr ⟨_, stores, rfl⟩]
        rfl
    | through advances _ inductionHypothesis =>
        simp only [writeSegments, advance_eq_ok_iff.mpr advances, inductionHypothesis]
        rfl

/-- A way through a segment takes the step that the segment names. -/
theorem Advances.address {next segment : Segment} {node child : Node} {step : Step}
    (advances : Advances next node segment step child) : node.address segment = some step := by
  cases advances with
  | kept named _ _ => exact named
  | filled named _ => exact named
  | added _ => rfl
  | appended unmatched _ _ =>
      rw [Node.address, List.findIdx_eq_length_of_false unmatched]

/-- A value is stored at the step that the segment names. -/
theorem Stores.address {value node : Node} {segment : Segment} {step : Step}
    (stores : Stores value node segment step) : node.address segment = some step := by
  cases stores with
  | replaced named _ _ => exact named
  | added _ => rfl

/-- A way through a segment leads to a step that the node takes. -/
theorem Advances.takes {next segment : Segment} {node child : Node} {step : Step}
    (advances : Advances next node segment step child) : node.Takes step := by
  cases advances with
  | kept _ found _ => exact takes_of_child found
  | filled _ found => exact takes_of_child found
  | added _ => trivial
  | appended _ _ _ => exact Nat.le_refl _

/-- A way through a segment keeps the child that was there, unless it was null or missing. -/
theorem Advances.child?_cases {next segment : Segment} {node child : Node} {step : Step}
    (advances : Advances next node segment step child) :
    node.child? step = some child ∨ node.child? step = some .null ∨ node.child? step = none := by
  cases advances with
  | kept _ found _ => exact .inl found
  | filled _ found => exact .inr (.inl found)
  | added missing => exact .inr (.inr missing)
  | appended _ _ _ => exact .inr (.inr (List.getElem?_eq_none (Nat.le_refl _)))

/-- A value is stored at a step that the node takes. -/
theorem Stores.takes {value node : Node} {segment : Segment} {step : Step}
    (stores : Stores value node segment step) : node.Takes step := by
  cases stores with
  | replaced _ found _ => exact takes_of_child found
  | added _ => trivial

/-- A value may replace the node at some steps, unless that node is an entry of a mapping, not null,
and of another kind. -/
def MayReplace (value old : Node) (steps : List Step) : Prop :=
  ∀ name, steps.getLast? = some (.key name) → old = .null ∨ old.kind = value.kind

/-- The steps to the children of a mapping are keys. -/
theorem step_of_isMapping {node child : Node} {step : Step} (mapping : node.isMapping = true)
    (found : node.child? step = some child) : ∃ name, step = .key name := by
  cases step with
  | key name => exact ⟨name, rfl⟩
  | position index =>
      cases node with
      | mapping _ => cases found
      | _ => cases mapping

/-- Only a mapping has children at keys. -/
theorem isMapping_of_child? {node child : Node} {name : String}
    (found : node.child? (.key name) = some child) : node.isMapping = true := by
  cases node with
  | mapping _ => rfl
  | _ => cases found

/-- A write along a span that can be traced takes the traced steps, if the value may replace what
is there. -/
theorem Route.of_trace {node old value : Node} {segment : Segment} {rest : Span}
    {steps : List Step} (traced : node.trace (segment :: rest) = .ok (steps, old))
    (allowed : MayReplace value old steps) :
    Route value node (segment :: rest) steps (node.placeAt steps value) := by
  induction rest generalizing node segment steps with
  | nil =>
      obtain ⟨step, child, others, located, ended, rfl⟩ := trace_cons_eq_ok_iff.mp traced
      cases ended
      obtain ⟨named, found⟩ := locate_eq_ok_iff.mp located
      have placed : node.placeAt [step] value = node.place step value := by
        simp only [placeAt, found]
      rw [placed]
      refine .last (.replaced named found fun mapping => ?_)
      obtain ⟨name, rfl⟩ := step_of_isMapping mapping found
      exact allowed name rfl
  | cons next rest inductionHypothesis =>
      obtain ⟨step, child, others, located, restTraced, rfl⟩ := trace_cons_eq_ok_iff.mp traced
      obtain ⟨named, found⟩ := locate_eq_ok_iff.mp located
      obtain ⟨_, _, _, nextLocated, -, rfl⟩ := trace_cons_eq_ok_iff.mp restTraced
      have suits := Segment.appliesTo_of_address (locate_eq_ok_iff.mp nextLocated).1
      have placed (steps : List Step) : node.placeAt (step :: steps) value =
          node.place step (child.placeAt steps value) := by
        simp only [placeAt, found]
      rw [placed]
      refine .through (.kept named found suits) (inductionHypothesis restTraced ?_)
      intro name last
      exact allowed name (List.getLast?_cons_cons.trans last)

/-- A span that can be traced is written at the traced steps only, by a value that may replace what
is there. -/
theorem Route.eq_of_trace {node old value tree : Node} {span : Span} {steps others : List Step}
    (route : Route value node span steps tree) (traced : node.trace span = .ok (others, old)) :
    MayReplace value old others ∧ tree = node.placeAt others value := by
  induction route generalizing others with
  | @last node segment step stores =>
      obtain ⟨found, child, below, located, ended, rfl⟩ := trace_cons_eq_ok_iff.mp traced
      cases ended
      obtain ⟨named, present⟩ := locate_eq_ok_iff.mp located
      cases named.symm.trans stores.address
      constructor
      · intro name last
        obtain rfl := Option.some.inj last
        cases stores with
        | replaced _ again allowed =>
            cases present.symm.trans again
            exact allowed (isMapping_of_child? present)
        | added missing => cases missing.symm.trans present
      · simp only [placeAt, present]
  | @through node child changed segment next rest step steps advances below inductionHypothesis =>
      obtain ⟨found, there, others, located, restTraced, rfl⟩ := trace_cons_eq_ok_iff.mp traced
      obtain ⟨named, present⟩ := locate_eq_ok_iff.mp located
      cases named.symm.trans advances.address
      -- The rest of the span leads on from the child, so it is neither missing nor null.
      obtain ⟨_, _, _, nextLocated, -, rfl⟩ := trace_cons_eq_ok_iff.mp restTraced
      have kept : there = child := by
        rcases advances.child?_cases with kept | null | missing
        · exact Option.some.inj (present.symm.trans kept)
        · cases present.symm.trans null
          cases next <;> cases nextLocated
        · cases present.symm.trans missing
      subst kept
      obtain ⟨allowed, rfl⟩ := inductionHypothesis restTraced
      constructor
      · intro name last
        exact allowed name (List.getLast?_cons_cons.symm.trans last)
      · simp only [placeAt, present]

/-- The container that a write starts from: a null root becomes the one that the first segment
needs. -/
def rooted (node : Node) (segment : Segment) : Node :=
  if node.isNull then segment.container.empty else node

/-- A node that is not null is the root itself. -/
theorem rooted_of_ne_null {node : Node} (other : node ≠ .null) (segment : Segment) :
    node.rooted segment = node := by
  simp only [rooted, isNull_eq_false other, Bool.false_eq_true, if_false]

/-- A node in which a segment names a step is the root itself. -/
theorem rooted_of_address {node : Node} {segment : Segment} {step : Step}
    (named : node.address segment = some step) : node.rooted segment = node := by
  refine rooted_of_ne_null ?_ segment
  rintro rfl
  cases segment <;> cases named

/-- A write in one document succeeds exactly when there is a route from its root. -/
theorem writeSpan_eq_done_iff {node value tree : Node} {segment : Segment} {rest : Span} :
    node.writeSpan (segment :: rest) value = .done tree ↔
      ∃ steps, Route value (node.rooted segment) (segment :: rest) steps tree :=
  writeSegments_eq_done_iff

/-- Where a span can be traced, a write succeeds exactly when the value may replace what is there,
and it changes that node only. -/
theorem writeSpan_eq_done_iff_of_trace {node old value tree : Node} {span : Span}
    {steps : List Step} (inhabited : span ≠ []) (traced : node.trace span = .ok (steps, old)) :
    node.writeSpan span value = .done tree ↔
      MayReplace value old steps ∧ tree = node.placeAt steps value := by
  obtain ⟨segment, rest, rfl⟩ := List.exists_cons_of_ne_nil inhabited
  obtain ⟨_, _, _, located, -, -⟩ := trace_cons_eq_ok_iff.mp traced
  rw [writeSpan_eq_done_iff, rooted_of_address (locate_eq_ok_iff.mp located).1]
  constructor
  · rintro ⟨taken, route⟩
    exact route.eq_of_trace traced
  · rintro ⟨allowed, rfl⟩
    exact ⟨steps, .of_trace traced allowed⟩

/-- A write along a span that can be traced replaces the node that the span leads to. -/
theorem writeSpan_of_trace {node old value : Node} {span : Span} {steps : List Step}
    (inhabited : span ≠ []) (traced : node.trace span = .ok (steps, old))
    (allowed : old = .null ∨ old.kind = value.kind) :
    node.writeSpan span value = .done (node.placeAt steps value) :=
  (writeSpan_eq_done_iff_of_trace inhabited traced).mpr ⟨fun _ _ => allowed, rfl⟩

end Node

end Graft
