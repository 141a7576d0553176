/-
This file shows that a write in one document changes the tree along one route only: the route is
the one that the segments address, and everything beside it stays.
-/

import Graft.Path.Parse
import Graft.Proofs.Node.Equality
import Graft.Proofs.Path.Route

namespace Graft

namespace Node

/-- The container after a change at a step is the one before it with one child replaced or added.
A mapping keeps its keys in their order, and a new key comes last. A sequence keeps its items in
their order, and a new item comes last. -/
def Extended : Step → Node → Node → Prop
  | .key name, .mapping entries, .mapping changed =>
      Entries.keys changed =
        if name ∈ Entries.keys entries then Entries.keys entries
        else Entries.keys entries ++ [name]
  | .position index, .sequence items, .sequence changed =>
      ∃ item, (index < items.length ∧ changed = items.set index item) ∨
        (index = items.length ∧ changed = items ++ [item])
  | _, _, _ => False

/-- A container is extended by a child that is placed at a step that it takes. -/
theorem extended_place {node : Node} {step : Step} (taken : node.Takes step) (child : Node) :
    Extended step node (node.place step child) := by
  cases node <;> cases step <;> simp only [Takes] at taken
  case mapping.key entries name => exact Entries.keys_put name child entries
  case sequence.position items index =>
      rcases Nat.lt_or_eq_of_le taken with inside | past
      · rw [place, if_pos inside]
        exact ⟨child, .inl ⟨inside, rfl⟩⟩
      · rw [place, if_neg (by omega)]
        exact ⟨child, .inr ⟨past, rfl⟩⟩

/-- The second tree is the first one with a value written at the steps that a span addresses.
There is one step for each segment, addressed in the first tree, where a missing or null node
counts as the empty container that the segment needs. The steps lead to the value. What lies
neither on the way nor below it is the same, each container on the way is extended at its step,
and a key that was there is replaced by a value of its kind only, unless it was null. -/
structure ChangedAlong (value before after : Node) (span : Span) (steps : List Step) : Prop where
  length : steps.length = span.length
  addressed : ∀ index segment, span[index]? = some segment → ∃ step, steps[index]? = some step ∧
    (((before.at? (steps.take index)).getD .null).rooted segment).address segment = some step
  written : after.at? steps = some value
  elsewhere : ∀ place node, before.at? place = some node → ¬ place <+: steps →
    ¬ steps <+: place → after.at? place = some node
  extended : ∀ index step node, steps[index]? = some step →
    before.at? (steps.take index) = some node → node ≠ .null →
    ∃ changed, after.at? (steps.take index) = some changed ∧ Extended step node changed
  replaced : ∀ front name old entries, steps = front ++ [.key name] →
    before.at? front = some (.mapping entries) → Entries.find? name entries = some old →
    old ≠ .null → old.kind = value.kind

/-- The value itself is what is written along no segments. -/
theorem ChangedAlong.nil (value before : Node) : ChangedAlong value before value [] [] where
  length := rfl
  addressed := by simp
  written := rfl
  elsewhere := by simp
  extended := by simp
  replaced := by simp

/-- Nothing lies below a null. -/
theorem at?_null (place : List Step) : (Node.null.at? place).getD .null = .null := by
  cases place <;> rfl

/-- The node below a step lies in the child at the step. -/
theorem at?_cons_eq_some {node target : Node} {step : Step} {place : List Step}
    (found : node.at? (step :: place) = some target) :
    ((node.child? step).getD .null).at? place = some target := by
  obtain ⟨child, present, below⟩ := Option.bind_eq_some_iff.mp found
  rw [present]
  exact below

/-- A change of the child at a step is a change along that step. -/
theorem ChangedAlong.cons {value node changed : Node} {segment : Segment} {rest : Span}
    {step : Step} {steps : List Step}
    (below : ChangedAlong value ((node.child? step).getD .null) changed rest steps)
    (named : node.address segment = some step) (taken : node.Takes step)
    (allowed : steps = [] → node.isMapping = true →
      ∀ old, node.child? step = some old → old = .null ∨ old.kind = value.kind) :
    ChangedAlong value node (node.place step changed) (segment :: rest) (step :: steps) where
  length := congrArg (· + 1) below.length
  addressed := by
    intro index later given
    cases index with
    | zero =>
        obtain rfl := Option.some.inj given
        refine ⟨step, rfl, ?_⟩
        rw [List.take_zero, at?, Option.getD_some, rooted_of_address named, named]
    | succ index =>
        obtain ⟨taking, present, address⟩ := below.addressed index later given
        refine ⟨taking, present, ?_⟩
        rw [← address, List.take_succ_cons, at?]
        cases node.child? step with
        | none => rw [Option.getD_none, at?_null]; rfl
        | some child => rfl
  written := by
    rw [at?, child?_place_same taken, Option.bind_some]
    exact below.written
  elsewhere := by
    intro place target found notAbove notBelow
    cases place with
    | nil => exact absurd List.nil_prefix notAbove
    | cons other place =>
        by_cases same : other = step
        · subst same
          rw [at?, child?_place_same taken, Option.bind_some]
          refine below.elsewhere place target (at?_cons_eq_some found) ?_ ?_
          · exact fun above => notAbove (List.cons_prefix_cons.mpr ⟨rfl, above⟩)
          · exact fun inside => notBelow (List.cons_prefix_cons.mpr ⟨rfl, inside⟩)
        · rw [at?, child?_place_other taken same]
          exact found
  extended := by
    intro index taking target present found notNull
    cases index with
    | zero =>
        obtain rfl := Option.some.inj present
        obtain rfl := Option.some.inj found
        exact ⟨_, rfl, extended_place taken changed⟩
    | succ index =>
        rw [List.take_succ_cons, at?, child?_place_same taken, Option.bind_some]
        exact below.extended index taking target present (at?_cons_eq_some found) notNull
  replaced := by
    intro front name old entries ended found held notNull
    cases front with
    | nil =>
        obtain ⟨rfl, rfl⟩ := List.cons.inj ended
        obtain rfl := Option.some.inj found
        exact (allowed rfl rfl old held).resolve_left notNull
    | cons first front =>
        obtain ⟨rfl, others⟩ := List.cons.inj ended
        exact below.replaced front name old entries others (at?_cons_eq_some found) held notNull

/-- The nodes that take the place of a missing or null one in front of a segment: the empty
container that the segment needs, or the fields that a predicate asks for. -/
inductive Created (segment : Segment) : Node → Prop where
  | empty : Created segment segment.container.empty
  | fields (value : String) (keys : List String) : Created segment (nestUnder (.text value) keys)

/-- The fields that a predicate asks for contain no sequence. -/
theorem at?_nestUnder {value : String} {keys : List String} {place : List Step} {node : Node}
    (found : (nestUnder (.text value) keys).at? place = some node) : node.kind ≠ .sequence := by
  induction keys generalizing place with
  | nil =>
      cases place with
      | nil =>
          obtain rfl := Option.some.inj found
          simp [nestUnder, kind]
      | cons step place => cases found
  | cons key rest inductionHypothesis =>
      cases place with
      | nil =>
          obtain rfl := Option.some.inj found
          simp [nestUnder, kind]
      | cons step place =>
          obtain ⟨child, present, below⟩ := Option.bind_eq_some_iff.mp found
          cases step with
          | position index => cases present
          | key name =>
              rw [nestUnder, child?, Entries.find?_cons] at present
              split at present
              · obtain rfl := Option.some.inj present
                exact inductionHypothesis below
              · cases present

/-- Outside a sequence a segment addresses what it addresses in the container that it needs. -/
theorem address_eq_empty {node : Node} {segment : Segment} {step : Step}
    (other : node.kind ≠ .sequence) (named : node.address segment = some step) :
    segment.container.empty.address segment = some step := by
  cases node with
  | mapping entries => cases segment <;> first | exact named | cases named
  | sequence items => exact absurd rfl other
  | text _ | number _ | boolean _ | null => cases segment <;> cases named

/-- Nothing lies below an empty container. -/
theorem at?_empty (kind : Kind) (step : Step) (place : List Step) :
    kind.empty.at? (step :: place) = none := by
  cases kind <;> cases step <;> simp [Kind.empty, at?, child?]

/-- In a created node the segments address what they address in empty containers. -/
theorem Created.address {segment later : Segment} {child : Node} {place : List Step} {step : Step}
    (created : Created segment child) (start : place = [] → later = segment)
    (named : (((child.at? place).getD .null).rooted later).address later = some step) :
    (Node.null.rooted later).address later = some step := by
  cases created with
  | empty =>
      cases place with
      | nil =>
          obtain rfl := start rfl
          cases later <;> exact named
      | cons first rest =>
          rw [at?_empty] at named
          exact named
  | fields value keys =>
      cases found : (nestUnder (.text value) keys).at? place with
      | none =>
          rw [found] at named
          exact named
      | some node =>
          rw [found, Option.getD_some] at named
          by_cases null : node = .null
          · subst null
            exact named
          · rw [rooted_of_ne_null null] at named
            exact address_eq_empty (at?_nestUnder found) named

/-- A change along the segments of a created node is one of the null that it took the place of. -/
theorem ChangedAlong.of_created {value child after : Node} {segment : Segment} {rest : Span}
    {steps : List Step} (along : ChangedAlong value child after (segment :: rest) steps)
    (created : Created segment child) :
    ChangedAlong value .null after (segment :: rest) steps where
  length := along.length
  addressed := by
    intro index later given
    obtain ⟨step, present, named⟩ := along.addressed index later given
    refine ⟨step, present, ?_⟩
    rw [at?_null]
    refine created.address (fun start => ?_) named
    cases index with
    | zero => exact (Option.some.inj given).symm
    | succ index =>
        -- There are steps, so a later segment does not start at the created node.
        cases steps with
        | nil => cases along.length
        | cons first steps => cases start
  written := along.written
  elsewhere := by
    intro place node found notAbove
    cases place with
    | nil => exact absurd List.nil_prefix notAbove
    | cons step place => cases found
  extended := by
    intro index step node _ found notNull
    cases taken : steps.take index with
    | nil =>
        rw [taken] at found
        exact absurd (Option.some.inj found).symm notNull
    | cons first place =>
        rw [taken] at found
        cases found
  replaced := by
    intro front name old entries _ found
    cases front <;> cases found

/-- A way through a segment leads to the child that was there, or one that was created in place of
a missing or null one. -/
theorem Advances.created {next segment : Segment} {node child : Node} {step : Step}
    (advances : Advances next node segment step child) :
    (node.child? step).getD .null = child ∨
      (node.child? step).getD .null = .null ∧ Created next child := by
  cases advances with
  | kept _ found _ => exact .inl (by rw [found, Option.getD_some])
  | filled _ found => exact .inr ⟨by rw [found, Option.getD_some], .empty⟩
  | added missing => exact .inr ⟨by rw [child?, missing, Option.getD_none], .empty⟩
  | appended _ _ _ =>
      refine .inr ⟨?_, .fields _ _⟩
      rw [child?, List.getElem?_eq_none (Nat.le_refl _), Option.getD_none]

/-- A route changes the tree along its steps. -/
theorem Route.changedAlong {value node tree : Node} {span : Span} {steps : List Step}
    (route : Route value node span steps tree) : ChangedAlong value node tree span steps := by
  induction route with
  | @last node segment step stores =>
      refine ChangedAlong.cons (.nil value _) stores.address stores.takes ?_
      intro _ isMapping old present
      cases stores with
      | replaced _ found allowed =>
          obtain rfl := Option.some.inj (found.symm.trans present)
          exact allowed isMapping
      | added missing => cases missing.symm.trans present
  | @through node child changed segment next rest step steps advances _ inductionHypothesis =>
      have below : ChangedAlong value ((node.child? step).getD .null) changed
          (next :: rest) steps := by
        rcases advances.created with kept | ⟨null, created⟩
        · rw [kept]
          exact inductionHypothesis
        · rw [null]
          exact inductionHypothesis.of_created created
      refine below.cons advances.address advances.takes fun none => ?_
      cases none
      cases below.length

/-- A write in one document changes the tree along one route only. -/
theorem write_changedAlong {path : Path} {span : Span} {bound : Nat} {value before after : Node}
    (single : path.spans = [span]) (written : before.write path value bound = .done after) :
    ∃ steps, ChangedAlong value before after span steps := by
  rw [write, single] at written
  cases span with
  | nil => cases written
  | cons segment rest =>
      obtain ⟨steps, route⟩ := writeSpan_eq_done_iff.mp written
      have along := route.changedAlong
      refine ⟨steps, ?_⟩
      by_cases null : before = .null
      · subst null
        exact along.of_created .empty
      · rw [rooted_of_ne_null null] at along
        exact along

/-- A predicate without a match changes a sequence by one more item, which comes last. -/
theorem write_changedAlong_image :
    ∃ path span steps, Path.parse "items[name=app].image" = .ok path ∧ path.spans = [span] ∧
      ChangedAlong (.text "app:2")
        (.mapping [("items", .sequence [.mapping [("name", .text "web")]])])
        (.mapping [("items", .sequence [.mapping [("name", .text "web")],
          .mapping [("name", .text "app"), ("image", .text "app:2")]])]) span steps := by
  let path : Path :=
    ⟨[[.key "items", .predicate "name" "app", .key "image"]], "items[name=app].image"⟩
  have parsed : Path.parse "items[name=app].image" = .ok path := by decide +kernel
  have written : (Node.mapping [("items", .sequence [.mapping [("name", .text "web")]])]).write
      path (.text "app:2") 16 = .done (.mapping [("items", .sequence [
        .mapping [("name", .text "web")],
        .mapping [("name", .text "app"), ("image", .text "app:2")]])]) := by decide +kernel
  obtain ⟨steps, along⟩ := write_changedAlong rfl written
  exact ⟨path, _, steps, parsed, rfl, along⟩

end Node

end Graft
