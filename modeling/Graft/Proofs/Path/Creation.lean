/-
This file says which spans can be written where there is nothing, and which kinds the nodes have
that such a write makes.
-/

import Graft.Proofs.Path.Frame
import Graft.Proofs.Path.Stable

namespace Graft

namespace Span

/-- What follows a predicate fits the field that it asks for when the keys lead away from the
field, or when they end the span on the way to the field, where a mapping is, or at the field, which
is a scalar. -/
def Fits (field : List String) (kind : Kind) (rest : Span) : Prop :=
  Apart field (leadingKeys rest) ∨
    (rest = (leadingKeys rest).map .key ∧ leadingKeys rest <+: field ∧
      kind = if leadingKeys rest = field then .scalar else .mapping)

/-- A span can be created with a value of a kind when it has no positions, ends in a key, and each
of its predicates has a key of its own, a key after it, and a rest that fits the field. -/
structure Creatable (kind : Kind) (span : Span) : Prop where
  unindexed : ∀ position, .index position ∉ span
  ended : ∃ name, span.getLast? = some (.key name)
  fitting : ∀ front key wanted rest, span = front ++ .predicate key wanted :: rest →
    key ≠ "" ∧ (∃ name others, rest = .key name :: others) ∧ Fits (Text.splitOn '.' key) kind rest

variable {kind : Kind} {rest : Span} {name key wanted : String} {field : List String}

/-- What follows a segment can be created if all can, unless nothing follows. -/
theorem Creatable.tail {segment : Segment} (creatable : Creatable kind (segment :: rest))
    (more : rest ≠ []) : Creatable kind rest where
  unindexed position member := creatable.unindexed position (List.mem_cons_of_mem _ member)
  ended := by
    obtain ⟨next, others, rfl⟩ := List.exists_cons_of_ne_nil more
    obtain ⟨name, last⟩ := creatable.ended
    exact ⟨name, List.getLast?_cons_cons.symm.trans last⟩
  fitting front key wanted others split :=
    creatable.fitting (segment :: front) key wanted others (by rw [split, List.cons_append])

/-- A segment can be created in front of what can be created if it is no position and what is asked
of a predicate holds. -/
theorem Creatable.cons {segment : Segment} (creatable : Creatable kind rest)
    (unindexed : ∀ position, segment ≠ .index position)
    (fitting : ∀ key wanted, segment = .predicate key wanted → key ≠ "" ∧
      (∃ name others, rest = .key name :: others) ∧ Fits (Text.splitOn '.' key) kind rest) :
    Creatable kind (segment :: rest) where
  unindexed position member := by
    rcases List.mem_cons.mp member with here | later
    · exact unindexed position here.symm
    · exact creatable.unindexed position later
  ended := by
    obtain ⟨name, last⟩ := creatable.ended
    cases rest with
    | nil => cases last
    | cons next others => exact ⟨name, List.getLast?_cons_cons.trans last⟩
  fitting front key wanted others split := by
    cases front with
    | nil =>
        obtain ⟨rfl, rfl⟩ := List.cons.inj split
        exact fitting key wanted rfl
    | cons first front =>
        obtain ⟨-, later⟩ := List.cons.inj split
        exact creatable.fitting front key wanted others later

/-- No position can be created. -/
theorem not_creatable_index (position : Nat) : ¬ Creatable kind (.index position :: rest) :=
  fun creatable => creatable.unindexed position List.mem_cons_self

/-- A key can be created in front of nothing and in front of what can be created. -/
theorem creatable_key_iff :
    Creatable kind (.key name :: rest) ↔ rest = [] ∨ Creatable kind rest := by
  constructor
  · intro creatable
    by_cases more : rest = []
    · exact .inl more
    · exact .inr (creatable.tail more)
  · rintro (rfl | creatable)
    · exact ⟨by simp, ⟨name, rfl⟩, by simp [List.cons_eq_append_iff]⟩
    · exact creatable.cons (by simp) (by simp)

/-- A predicate can be created in front of a key that starts what can be created and fits. -/
theorem creatable_predicate_iff :
    Creatable kind (.predicate key wanted :: rest) ↔
      key ≠ "" ∧ (∃ name others, rest = .key name :: others) ∧
        Fits (Text.splitOn '.' key) kind rest ∧ Creatable kind rest := by
  constructor
  · intro creatable
    obtain ⟨given, followed, fits⟩ := creatable.fitting [] key wanted rest rfl
    have more : rest ≠ [] := by
      obtain ⟨name, others, rfl⟩ := followed
      simp
    exact ⟨given, followed, fits, creatable.tail more⟩
  · rintro ⟨given, followed, fits, creatable⟩
    apply creatable.cons
    · simp
    · intro _ _ same
      cases same
      exact ⟨given, followed, fits⟩

instance (field : List String) (kind : Kind) (rest : Span) : Decidable (Fits field kind rest) :=
  inferInstanceAs (Decidable (_ ∨ _))

/-- A key follows where a span starts with the names of keys. -/
theorem leadingKeys_ne_nil_iff :
    leadingKeys rest ≠ [] ↔ ∃ name others, rest = .key name :: others := by
  cases rest with
  | nil => simp [leadingKeys]
  | cons segment others => cases segment <;> simp [leadingKeys]

instance decidableCreatable (kind : Kind) : (span : Span) → Decidable (Creatable kind span)
  | [] => isFalse fun creatable => by simpa using creatable.ended
  | .index position :: _ => isFalse (not_creatable_index position)
  | .key _ :: rest =>
      have := decidableCreatable kind rest
      decidable_of_iff _ creatable_key_iff.symm
  | .predicate key _ :: rest =>
      have := decidableCreatable kind rest
      have : Decidable (∃ name others, rest = Segment.key name :: others) :=
        decidable_of_iff _ leadingKeys_ne_nil_iff
      decidable_of_iff _ creatable_predicate_iff.symm

/-- A span that fits a field and is not at its end goes on with a key, and so does the field. -/
theorem Fits.cons {segment : Segment} (fits : Fits field kind (segment :: rest)) :
    (∃ name, segment = .key name) ∧ ∃ first others, field = first :: others := by
  rcases fits with apart | ⟨keys, starts, -⟩
  · obtain ⟨first, others, name, more, rfl, led⟩ := apart.cons
    exact ⟨⟨name, (leadingKeys_eq_cons led).1⟩, first, others, rfl⟩
  · cases segment with
    | key name =>
        cases field with
        | nil => cases List.prefix_nil.mp starts
        | cons first others => exact ⟨⟨name, rfl⟩, first, others, rfl⟩
    | index _ | predicate _ _ => cases keys

/-- A key other than the first one of the field leads away from it. -/
theorem fits_of_ne {first : String} {others : List String} (different : name ≠ first) :
    Fits (first :: others) kind (.key name :: rest) := by
  refine .inl ⟨fun starts => ?_, fun starts => ?_⟩
  · exact different (List.cons_prefix_cons.mp starts).1.symm
  · exact different (List.cons_prefix_cons.mp starts).1

/-- The first key of the field leads to the rest of the field. -/
theorem fits_cons_iff {others : List String} :
    Fits (name :: others) kind (.key name :: rest) ↔ Fits others kind rest := by
  simp [Fits, Apart, leadingKeys, List.cons_prefix_cons]

end Span

namespace Node

variable {value node child : Node} {name : String} {segment next : Segment} {rest : Span}
  {step : Step}

/-- A value can be written along a span from a node. -/
def Admits (value node : Node) (span : Span) : Prop :=
  ∃ steps tree, Route value node span steps tree

/-- A span that can be written starts with a segment that applies to the node. -/
theorem Admits.appliesTo (admits : Admits value node (segment :: rest)) :
    segment.appliesTo node.kind = true := by
  obtain ⟨steps, tree, route⟩ := admits
  cases route with
  | last stores => exact Segment.appliesTo_of_address stores.address
  | through advances _ => exact Segment.appliesTo_of_address advances.address

/-- There is one way at most through a segment. -/
theorem Advances.unique {other : Step} {entered : Node}
    (first : Advances next node segment step child)
    (second : Advances next node segment other entered) : step = other ∧ child = entered := by
  cases (advance_eq_ok_iff.mpr first).symm.trans (advance_eq_ok_iff.mpr second)
  exact ⟨rfl, rfl⟩

/-- A span is written from a node as its rest is from the child that its first segment leads to. -/
theorem admits_through_iff (advances : Advances next node segment step child) :
    Admits value node (segment :: next :: rest) ↔ Admits value child (next :: rest) := by
  constructor
  · rintro ⟨_, _, route⟩
    cases route with
    | through again below =>
        obtain ⟨rfl, rfl⟩ := again.unique advances
        exact ⟨_, _, below⟩
  · rintro ⟨_, _, below⟩
    exact ⟨_, _, .through advances below⟩

/-- A span is written through a child that is there and not null as it is from the child. -/
theorem admits_kept_iff (named : node.address segment = some step)
    (found : node.child? step = some child) (given : child ≠ .null) :
    Admits value node (segment :: next :: rest) ↔ Admits value child (next :: rest) := by
  constructor
  · rintro ⟨_, _, route⟩
    cases route with
    | through advances below =>
        cases advances.address.symm.trans named
        rcases advances.child?_cases with kept | null | missing
        · cases kept.symm.trans found
          exact ⟨_, _, below⟩
        · exact absurd (Option.some.inj (found.symm.trans null)) given
        · cases missing.symm.trans found
  · intro admits
    exact (admits_through_iff (.kept named found admits.appliesTo)).mpr admits

/-- An empty sequence has no child. -/
theorem child?_sequence_nil (step : Step) : (Node.sequence []).child? step = none := by
  cases step <;> rfl

/-- In an empty sequence only a predicate leads on, if it has a key and a key follows, and it leads
to the field that it asks for. -/
theorem Advances.ofEmpty (advances : Advances next (.sequence []) segment step child) :
    ∃ key wanted, segment = .predicate key wanted ∧ key ≠ "" ∧ next.container = .mapping ∧
      child = nestUnder (.text wanted) (Text.splitOn '.' key) := by
  cases advances with
  | kept _ found _ => cases (child?_sequence_nil step).symm.trans found
  | filled _ found => cases (child?_sequence_nil step).symm.trans found
  | appended _ given container => exact ⟨_, _, rfl, given, container, rfl⟩

/-- A span that can be written in an empty sequence starts with a predicate and goes on. -/
theorem Admits.isPredicate (admits : Admits value (.sequence []) (segment :: rest)) :
    rest ≠ [] ∧ ∃ key wanted, segment = .predicate key wanted := by
  obtain ⟨_, _, route⟩ := admits
  cases route with
  | last stores =>
      cases stores with
      | replaced _ found _ => cases (child?_sequence_nil _).symm.trans found
  | through advances _ =>
      obtain ⟨key, wanted, same, -⟩ := advances.ofEmpty
      exact ⟨by simp, key, wanted, same⟩

/-- A predicate in front of a key is written through in an empty sequence as the rest is in the
field that it asks for. -/
theorem admits_predicate_iff {key wanted : String} :
    Admits value (.sequence []) (.predicate key wanted :: next :: rest) ↔
      key ≠ "" ∧ next.container = .mapping ∧
        Admits value (nestUnder (.text wanted) (Text.splitOn '.' key)) (next :: rest) := by
  constructor
  · rintro ⟨_, _, route⟩
    cases route with
    | through advances below =>
        obtain ⟨_, _, same, given, container, rfl⟩ := advances.ofEmpty
        cases same
        exact ⟨given, container, _, _, below⟩
  · rintro ⟨given, container, admits⟩
    exact (admits_through_iff (.appended (by simp) given container)).mpr admits

/-- A value is stored under a key that is missing, and else if it may replace what is there. -/
theorem admits_last_iff {entries : List (String × Node)} :
    Admits value (.mapping entries) [.key name] ↔
      ∀ old, Entries.find? name entries = some old → old = .null ∨ old.kind = value.kind := by
  constructor
  · rintro ⟨_, _, route⟩ old present
    cases route with
    | last stores =>
        cases stores with
        | replaced named found allowed =>
            cases named
            cases present.symm.trans found
            exact allowed rfl
        | added missing => cases missing.symm.trans present
  · intro allowed
    cases present : Entries.find? name entries with
    | none => exact ⟨_, _, .last (.added present)⟩
    | some old =>
        exact ⟨_, _, .last (.replaced rfl present fun _ => allowed old present)⟩

/-- A field is made of mappings around a text. -/
theorem kind_nestUnder (wanted : String) (field : List String) :
    (nestUnder (.text wanted) field).kind = if [] = field then .scalar else .mapping := by
  cases field <;> rfl

/-- What is made for a field is not null. -/
theorem nestUnder_ne_null (wanted : String) (field : List String) :
    nestUnder (.text wanted) field ≠ .null := by
  cases field <;> simp [nestUnder]

/-- A span that can be written in a field and is not at its end goes on with a key, and so does
the field. -/
theorem Admits.ofField {wanted : String} {field : List String}
    (admits : Admits value (nestUnder (.text wanted) field) (segment :: rest)) :
    (∃ name, segment = .key name) ∧ ∃ first others, field = first :: others := by
  have applies := admits.appliesTo
  cases field <;> cases segment <;> simp [nestUnder, Segment.appliesTo, kind] at applies ⊢

/-- At the end of a span in a field the value has the kind of what is there. -/
theorem fits_nil_iff {kind : Kind} (wanted : String) (field : List String) :
    Span.Fits field kind [] ↔ (nestUnder (.text wanted) field).kind = kind := by
  simp [Span.Fits, Apart, Span.leadingKeys, kind_nestUnder, eq_comm]

/-- A key at the end of a span is written in a field exactly when it fits the field. -/
theorem admits_field_last_iff {wanted first : String} {others : List String} :
    Admits value (nestUnder (.text wanted) (first :: others)) [.key name] ↔
      Span.Fits (first :: others) value.kind [.key name] := by
  rw [nestUnder, admits_last_iff]
  by_cases same : first = name
  · subst same
    have given := nestUnder_ne_null wanted others
    rw [Span.fits_cons_iff, fits_nil_iff wanted]
    simp [Entries.find?_cons, given]
  · simp [Entries.find?_cons, same, Span.fits_of_ne (Ne.symm same)]

/-- A key with more segments after it is written in a field as the rest is in what the key leads
to, or where there is nothing if the key is not the one of the field. -/
theorem admits_field_key_iff {wanted first : String} {others : List String}
    (empty : Admits value next.container.empty (next :: rest) ↔
      Span.Creatable value.kind (next :: rest))
    (inside : Admits value (nestUnder (.text wanted) others) (next :: rest) ↔
      Span.Fits others value.kind (next :: rest) ∧ Span.Creatable value.kind (next :: rest)) :
    Admits value (nestUnder (.text wanted) (first :: others)) (.key name :: next :: rest) ↔
      Span.Fits (first :: others) value.kind (.key name :: next :: rest) ∧
        Span.Creatable value.kind (next :: rest) := by
  rw [nestUnder]
  by_cases same : first = name
  · subst same
    have found : (Node.mapping [(first, nestUnder (.text wanted) others)]).child? (.key first) =
        some (nestUnder (.text wanted) others) := if_pos rfl
    rw [admits_kept_iff rfl found (nestUnder_ne_null wanted others), inside, Span.fits_cons_iff]
  · have missing : Entries.find? name [(first, nestUnder (.text wanted) others)] = none := by
      simp [Entries.find?_cons, same]
    rw [admits_through_iff (.added missing), empty]
    simp [Span.fits_of_ne (Ne.symm same)]

/-- A span is written in a field exactly when it fits the field and can be created, if this holds
where the span starts with a key and the field has one. -/
theorem admits_field_iff {wanted : String} {field : List String}
    (keyed : ∀ name first others,
      Admits value (nestUnder (.text wanted) (first :: others)) (.key name :: rest) ↔
        Span.Fits (first :: others) value.kind (.key name :: rest) ∧
          (rest = [] ∨ Span.Creatable value.kind rest)) :
    Admits value (nestUnder (.text wanted) field) (segment :: rest) ↔
      Span.Fits field value.kind (segment :: rest) ∧
        Span.Creatable value.kind (segment :: rest) := by
  constructor
  · intro admits
    obtain ⟨⟨name, rfl⟩, first, others, rfl⟩ := admits.ofField
    obtain ⟨fits, creatable⟩ := (keyed name first others).mp admits
    exact ⟨fits, Span.creatable_key_iff.mpr creatable⟩
  · rintro ⟨fits, creatable⟩
    obtain ⟨⟨name, rfl⟩, first, others, rfl⟩ := fits.cons
    exact (keyed name first others).mpr ⟨fits, Span.creatable_key_iff.mp creatable⟩

/-- A value can be written along a span in the container that its first segment needs exactly when
the span can be created. In a field, the span has to fit the field as well. -/
theorem admits_new_iff (value : Node) (segment : Segment) (rest : Span) :
    (Admits value segment.container.empty (segment :: rest) ↔
      Span.Creatable value.kind (segment :: rest)) ∧
    ∀ wanted field, Admits value (nestUnder (.text wanted) field) (segment :: rest) ↔
      Span.Fits field value.kind (segment :: rest) ∧
        Span.Creatable value.kind (segment :: rest) := by
  -- The two go together: a predicate leads into a field, and a key leads past it to nothing.
  induction rest generalizing segment with
  | nil =>
      refine ⟨?_, fun wanted field => admits_field_iff fun name first others => ?_⟩
      · cases segment with
        | key name =>
            have admits : Admits value (.mapping []) [.key name] := ⟨_, _, .last (.added rfl)⟩
            exact iff_of_true admits (Span.creatable_key_iff.mpr (.inl rfl))
        | index position =>
            exact iff_of_false (fun admits => admits.isPredicate.1 rfl)
              (Span.not_creatable_index position)
        | predicate key wanted =>
            refine iff_of_false (fun admits => admits.isPredicate.1 rfl) fun creatable => ?_
            obtain ⟨-, ⟨_, _, followed⟩, -⟩ := Span.creatable_predicate_iff.mp creatable
            cases followed
      · simpa using admits_field_last_iff
  | cons next rest inductionHypothesis =>
      obtain ⟨empty, inside⟩ := inductionHypothesis next
      refine ⟨?_, fun wanted field => admits_field_iff fun name first others => ?_⟩
      · cases segment with
        | key name =>
            rw [Span.creatable_key_iff, or_iff_right (List.cons_ne_nil next rest), ← empty]
            exact admits_through_iff (.added rfl)
        | index position =>
            refine iff_of_false (fun admits => ?_) (Span.not_creatable_index position)
            obtain ⟨-, _, _, isPredicate⟩ := admits.isPredicate
            cases isPredicate
        | predicate key wanted =>
            have keyed : next.container = .mapping ↔
                ∃ name others, next :: rest = Segment.key name :: others := by
              cases next <;> simp [Segment.container]
            rw [Span.creatable_predicate_iff, ← keyed, ← inside]
            exact admits_predicate_iff
      · simpa using admits_field_key_iff empty (inside wanted others)

/-- A node that has a child where nothing else was is the container that the segment needs. -/
theorem kind_of_address_null (named : (Node.null.rooted segment).address segment = some step)
    (found : node.child? step = some child) : node.kind = segment.container := by
  have shape : (∃ name, step = .key name ∧ segment.container = .mapping) ∨
      ∃ position, step = .position position ∧ segment.container = .sequence := by
    cases segment <;> cases named
    · exact .inl ⟨_, rfl, rfl⟩
    · exact .inr ⟨_, rfl, rfl⟩
    · exact .inr ⟨_, rfl, rfl⟩
  rcases shape with ⟨name, rfl, container⟩ | ⟨position, rfl, container⟩
  · cases node with
    | mapping _ => exact container.symm
    | _ => cases found
  · cases node with
    | sequence _ => exact container.symm
    | _ => cases found

/-- Within a single span a segment leads to the container that the next one needs, and the last
segment to the value. -/
theorem requiredKind?_single {span : Span} {index : Nat} (inside : index < span.length)
    (kind : Kind) : Path.requiredKind? [span] 0 index kind =
      some ((span[index + 1]?.map Segment.container).getD kind) := by
  have given : ¬ span.length ≤ index := by omega
  cases later : span[index + 1]? with
  | none => simp [Path.requiredKind?, given, later]
  | some next => simp [Path.requiredKind?, given, later]

/-- A write where nothing was makes nodes of the kinds that the segments and the value need. -/
theorem ChangedAlong.kind_of_null {tree : Node} {span : Span} {steps : List Step} {index : Nat}
    (along : ChangedAlong value .null tree span steps) (inside : index < span.length) :
    ∃ node, tree.at? (steps.take (index + 1)) = some node ∧
      Path.requiredKind? [span] 0 index value.kind = some node.kind := by
  rw [requiredKind?_single inside]
  have length := along.length
  cases later : span[index + 1]? with
  | none =>
      have past : span.length ≤ index + 1 := List.getElem?_eq_none_iff.mp later
      refine ⟨value, ?_, rfl⟩
      rw [List.take_of_length_le (by omega)]
      exact along.written
  | some next =>
      obtain ⟨step, present, named⟩ := along.addressed (index + 1) next later
      rw [at?_null] at named
      obtain ⟨further, taken⟩ := List.getElem?_eq_some_iff.mp present
      have written := along.written
      rw [← List.take_append_drop (index + 1) steps, List.drop_eq_getElem_cons further, taken,
        at?_append] at written
      obtain ⟨node, found, below⟩ := Option.bind_eq_some_iff.mp written
      obtain ⟨child, childFound, -⟩ := Option.bind_eq_some_iff.mp below
      exact ⟨node, found, congrArg some (kind_of_address_null named childFound).symm⟩

/-- In a null document a path with one span can be written exactly when the span can be created with
a value of the kind. The nodes on the way then have the kinds that the path requires. -/
theorem write_null_done_iff {path : Path} {span : Span} (single : path.spans = [span])
    (value : Node) (bound : Nat) :
    ((∃ tree, Node.null.write path value bound = .done tree) ↔
      Span.Creatable value.kind span) ∧
    ∀ tree, Node.null.write path value bound = .done tree →
      ∃ steps, ChangedAlong value .null tree span steps ∧
        ∀ index < span.length, ∃ node, tree.at? (steps.take (index + 1)) = some node ∧
          Path.requiredKind? path.spans 0 index value.kind = some node.kind := by
  rw [write, single]
  cases span with
  | nil =>
      constructor
      · refine iff_of_false ?_ fun creatable => by simpa using creatable.ended
        rintro ⟨tree, written⟩
        cases written
      · intro tree written
        cases written
  | cons segment rest =>
      constructor
      · rw [← (admits_new_iff value segment rest).1, Admits, exists_comm]
        exact exists_congr fun tree => writeSpan_eq_done_iff
      · intro tree written
        obtain ⟨steps, route⟩ := writeSpan_eq_done_iff.mp written
        have along : ChangedAlong value .null tree (segment :: rest) steps :=
          route.changedAlong.of_created .empty
        exact ⟨steps, along, fun index inside => along.kind_of_null inside⟩

/-- The keys after a predicate may stop on the way to its field, where a mapping can be put and a
text cannot. -/
theorem write_null_done_iff_stopped :
    let span : Span := [.key "items", .predicate "meta.name" "app", .key "meta"]
    ∃ path tree, Path.parse "items[meta.name=app].meta" = .ok path ∧ path.spans = [span] ∧
      Node.null.write path (.mapping []) 16 = .done tree ∧
      (∃ steps, ChangedAlong (.mapping []) .null tree span steps ∧
        ∀ index < span.length, ∃ node, tree.at? (steps.take (index + 1)) = some node ∧
          Path.requiredKind? path.spans 0 index .mapping = some node.kind) ∧
      ¬ ∃ tree, Node.null.write path (.text "x") 16 = .done tree := by
  intro span
  let path : Path := ⟨[span], "items[meta.name=app].meta"⟩
  have parsed : Path.parse "items[meta.name=app].meta" = .ok path := by decide +kernel
  have single : path.spans = [span] := rfl
  have creatable : Span.Creatable .mapping span := by decide +kernel
  have other : ¬ Span.Creatable .scalar span := by decide +kernel
  obtain ⟨creates, kinds⟩ := write_null_done_iff single (.mapping []) 16
  obtain ⟨createsText, -⟩ := write_null_done_iff single (.text "x") 16
  obtain ⟨tree, written⟩ := creates.mpr creatable
  exact ⟨path, tree, parsed, single, written, kinds tree written, mt createsText.mp other⟩

end Node

end Graft
