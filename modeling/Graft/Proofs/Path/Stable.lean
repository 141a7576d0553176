/-
This file names the paths whose predicates a write cannot upset, and shows that what was written
at such a path is read back.
-/

import Graft.Proofs.Path.Nested

namespace Graft

/-- The names of the keys that a span starts with. -/
def Span.leadingKeys : Span → List String
  | .key name :: rest => name :: Span.leadingKeys rest
  | _ => []

/-- Neither of two chains of keys starts with the other. -/
def Apart (first second : List String) : Prop := ¬ first <+: second ∧ ¬ second <+: first

instance (first second : List String) : Decidable (Apart first second) :=
  inferInstanceAs (Decidable (_ ∧ _))

/-- A span that starts with a name starts with the key of that name. -/
theorem Span.leadingKeys_eq_cons {segment : Segment} {rest : Span} {name : String}
    {others : List String} (led : Span.leadingKeys (segment :: rest) = name :: others) :
    segment = .key name ∧ Span.leadingKeys rest = others := by
  cases segment with
  | key first =>
      obtain ⟨rfl, rfl⟩ := List.cons.inj led
      exact ⟨rfl, rfl⟩
  | index _ | predicate _ _ => cases led

/-- A span is stable when it does not end in a predicate, no predicate has an empty key, and the
keys after a predicate lead away from the field that it asks for. -/
def Span.Stable : Span → Prop
  | [] => True
  | .predicate key _ :: rest =>
      rest ≠ [] ∧ key ≠ "" ∧ Apart (Text.splitOn '.' key) (Span.leadingKeys rest) ∧
        Span.Stable rest
  | _ :: rest => Span.Stable rest

/-- What follows a segment of a stable span is stable. -/
theorem Span.Stable.tail {segment : Segment} {rest : Span}
    (stable : Span.Stable (segment :: rest)) : Span.Stable rest := by
  cases segment with
  | predicate key wanted => exact stable.2.2.2
  | key _ | index _ => exact stable

instance Span.decidableStable : (span : Span) → Decidable (Span.Stable span)
  | [] => inferInstanceAs (Decidable True)
  | .predicate _ _ :: rest =>
      have := Span.decidableStable rest
      inferInstanceAs (Decidable (_ ∧ _ ∧ _ ∧ _))
  | .key _ :: rest | .index _ :: rest => Span.decidableStable rest

/-- A path is stable when each of its spans is. -/
def Path.Stable (path : Path) : Prop := ∀ span ∈ path.spans, Span.Stable span

instance (path : Path) : Decidable path.Stable :=
  inferInstanceAs (Decidable (∀ span ∈ path.spans, Span.Stable span))

/-- A span is plain when it has no predicate. -/
def Span.Plain (span : Span) : Prop := ∀ key wanted, Segment.predicate key wanted ∉ span

/-- A plain span does not start with a predicate. -/
theorem Span.Plain.head {segment : Segment} {rest : Span} (plain : Span.Plain (segment :: rest))
    (key wanted : String) : segment ≠ .predicate key wanted := by
  rintro rfl
  exact plain key wanted List.mem_cons_self

/-- What follows a segment of a plain span is plain. -/
theorem Span.Plain.tail {segment : Segment} {rest : Span} (plain : Span.Plain (segment :: rest)) :
    Span.Plain rest := fun key wanted member => plain key wanted (List.mem_cons_of_mem _ member)

/-- A plain span is stable. -/
theorem Span.Plain.stable {span : Span} (plain : Span.Plain span) : Span.Stable span := by
  induction span with
  | nil => trivial
  | cons segment rest inductionHypothesis =>
      cases segment with
      | predicate key wanted => exact absurd rfl (plain.head key wanted)
      | key _ | index _ => exact inductionHypothesis plain.tail

/-- A path is plain when each of its spans is. -/
def Path.Plain (path : Path) : Prop := ∀ span ∈ path.spans, Span.Plain span

/-- A plain path is stable. -/
theorem Path.Plain.stable {path : Path} (plain : path.Plain) : path.Stable :=
  fun span member => (plain span member).stable

/-- Chains that are apart and start with the same key are apart after it. -/
theorem Apart.tail {name : String} {first second : List String}
    (apart : Apart (name :: first) (name :: second)) : Apart first second := by
  constructor
  · intro starts
    exact apart.1 (List.cons_prefix_cons.mpr ⟨rfl, starts⟩)
  · intro starts
    exact apart.2 (List.cons_prefix_cons.mpr ⟨rfl, starts⟩)

/-- Two chains that are apart both have a key. -/
theorem Apart.cons {first second : List String} (apart : Apart first second) :
    ∃ name rest other others, first = name :: rest ∧ second = other :: others := by
  cases first with
  | nil => exact absurd List.nil_prefix apart.1
  | cons name rest =>
      cases second with
      | nil => exact absurd List.nil_prefix apart.2
      | cons other others => exact ⟨name, rest, other, others, rfl, rfl⟩

namespace Node

/-- The value is found under the keys that it was put under. -/
theorem entryAt?_nestUnder (value : Node) (keys : List String) :
    (nestUnder value keys).entryAt? keys = some value := by
  induction keys with
  | nil => rfl
  | cons key rest inductionHypothesis =>
      simp only [nestUnder, entryAt?, entry?, Entries.find?_cons, if_true, Option.bind_some]
      exact inductionHypothesis

/-- An item satisfies a predicate when the field that the keys lead to has the text. -/
theorem satisfies_iff {item : Node} {key value : String} (named : key ≠ "") :
    item.satisfies key value = true ↔
      ∃ field, item.entryAt? (Text.splitOn '.' key) = some field ∧
        field.scalarText? = some value := by
  have given : key.isEmpty = false := by simpa using named
  simp only [satisfies, given, Bool.false_eq_true, if_false, beq_iff_eq, Option.bind_eq_some_iff]

/-- A key names its own step at a node with fields. -/
theorem address_key_of_entryAt? {node field : Node} {key : String} {rest : List String}
    (found : node.entryAt? (key :: rest) = some field) (name : String) :
    node.address (.key name) = some (.key name) := by
  cases node with
  | mapping entries => rfl
  | _ => cases found

/-- A write leaves the field alone that its keys lead away from. -/
theorem entryAt?_of_route {value node tree field : Node} {span : Span} {steps : List Step}
    {keys : List String} (route : Route value node span steps tree)
    (apart : Apart keys (Span.leadingKeys span)) (found : node.entryAt? keys = some field) :
    tree.entryAt? keys = some field := by
  induction route generalizing keys with
  | @last node segment step stores =>
      obtain ⟨key, rest, name, others, rfl, led⟩ := apart.cons
      obtain ⟨rfl, -⟩ := Span.leadingKeys_eq_cons led
      have different : key ≠ name := by
        rintro rfl
        exact apart.2 (List.cons_prefix_cons.mpr ⟨rfl, List.nil_prefix⟩)
      cases stores.address.symm.trans (address_key_of_entryAt? found name)
      rw [entryAt?_place_other different]
      exact found
  | @through node child changed segment next rest step steps advances below inductionHypothesis =>
      obtain ⟨key, keys, name, others, rfl, led⟩ := apart.cons
      obtain ⟨rfl, -⟩ := Span.leadingKeys_eq_cons led
      cases advances.address.symm.trans (address_key_of_entryAt? found name)
      by_cases same : key = name
      · subst same
        have deeper : Apart keys (Span.leadingKeys (next :: rest)) := apart.tail
        rw [entryAt?_place_same advances.takes]
        obtain ⟨old, present, inside⟩ := Option.bind_eq_some_iff.mp found
        rw [entry?_eq_child?] at present
        -- The field lies below the key, so the child was neither missing nor null.
        rcases advances.child?_cases with kept | null | missing
        · cases present.symm.trans kept
          exact inductionHypothesis deeper inside
        · cases present.symm.trans null
          obtain ⟨first, others, -, -, rfl, -⟩ := deeper.cons
          cases inside
        · cases present.symm.trans missing
      · rw [entryAt?_place_other same]
        exact found

/-- Placing a child keeps the step of a segment that is not a predicate. -/
theorem address_place {segment : Segment} (fixed : ∀ key wanted, segment ≠ .predicate key wanted)
    (node : Node) (step : Step) (child : Node) :
    (node.place step child).address segment = node.address segment := by
  cases segment with
  | predicate key wanted => exact absurd rfl (fixed key wanted)
  | key _ | index _ =>
      cases node <;> cases step <;> try rfl
      simp only [place]
      split <;> rfl

/-- A child that satisfies a predicate keeps its step when it is placed there. -/
theorem address_place_predicate {node child : Node} {key wanted : String} {step : Step}
    (named : node.address (.predicate key wanted) = some step)
    (satisfied : child.satisfies key wanted = true) (taken : node.Takes step) :
    (node.place step child).address (.predicate key wanted) = some step := by
  cases node with
  | sequence items =>
      obtain rfl := Option.some.inj named
      simp only [place]
      split
      · rename_i inside
        have first : (items.set (items.findIdx fun item => item.satisfies key wanted)
            child).findIdx (fun item => item.satisfies key wanted) =
              items.findIdx fun item => item.satisfies key wanted := by
          rw [List.findIdx_eq (by simpa using inside)]
          refine ⟨by simpa using satisfied, fun position earlier => ?_⟩
          rw [List.getElem_set_ne (by omega)]
          simpa using List.not_of_lt_findIdx earlier
        rw [address, first]
      · rename_i outside
        have past : (items.findIdx fun item => item.satisfies key wanted) = items.length :=
          Nat.le_antisymm List.findIdx_le_length (Nat.le_of_not_lt outside)
        simp [address, List.findIdx_append, List.findIdx_cons, past, satisfied]
  | mapping _ | text _ | number _ | boolean _ | null => cases named

/-- The child that a predicate leads to satisfies it. -/
theorem satisfies_of_address {node child : Node} {key wanted : String} {step : Step}
    (named : node.address (.predicate key wanted) = some step)
    (found : node.child? step = some child) : child.satisfies key wanted = true := by
  cases node with
  | sequence items =>
      obtain rfl := Option.some.inj named
      rw [child?] at found
      have satisfied := List.findIdx_of_getElem?_eq_some found
      exact satisfied
  | mapping _ | text _ | number _ | boolean _ | null => cases named

/-- A way through a predicate with a key leads to a child that satisfies the predicate. -/
theorem Advances.satisfies {next : Segment} {node child : Node} {key wanted : String} {step : Step}
    (advances : Advances next node (.predicate key wanted) step child) (given : key ≠ "")
    (keyed : Text.splitOn '.' key ≠ []) : child.satisfies key wanted = true := by
  cases advances with
  | kept named found _ => exact satisfies_of_address named found
  | filled named found =>
      -- A null has no fields, so it satisfies no predicate with a key.
      obtain ⟨field, present, -⟩ := (satisfies_iff given).mp (satisfies_of_address named found)
      obtain ⟨name, others, keys⟩ := List.exists_cons_of_ne_nil keyed
      rw [keys] at present
      cases present
  | appended _ _ _ => exact (satisfies_iff given).mpr ⟨_, entryAt?_nestUnder _ _, rfl⟩

/-- A write below a segment of a stable span keeps the step that the segment names. -/
theorem Advances.address_place {value node child changed : Node} {segment next : Segment}
    {rest : Span} {step : Step} {steps : List Step}
    (advances : Advances next node segment step child)
    (below : Route value child (next :: rest) steps changed)
    (stable : Span.Stable (segment :: next :: rest)) :
    (node.place step changed).address segment = some step := by
  cases segment with
  | predicate key wanted =>
      obtain ⟨-, given, apart, -⟩ := stable
      obtain ⟨name, others, -, -, keys, -⟩ := apart.cons
      have keyed : Text.splitOn '.' key ≠ [] := by simp [keys]
      obtain ⟨field, present, textual⟩ :=
        (satisfies_iff given).mp (advances.satisfies given keyed)
      have satisfied : changed.satisfies key wanted = true :=
        (satisfies_iff given).mpr ⟨field, entryAt?_of_route below apart present, textual⟩
      exact address_place_predicate advances.address satisfied advances.takes
  | key _ | index _ =>
      rw [Node.address_place (by simp)]
      exact advances.address

/-- A write along a stable span leaves a tree in which the span takes the same steps to the
value. -/
theorem trace_of_route {value node tree : Node} {span : Span} {steps : List Step}
    (route : Route value node span steps tree) (stable : Span.Stable span) :
    tree.trace span = .ok (steps, value) := by
  induction route with
  | @last node segment step stores =>
      have fixed : ∀ key wanted, segment ≠ .predicate key wanted := by
        rintro key wanted rfl
        exact stable.1 rfl
      have located : (node.place step value).locate segment = .ok (step, value) :=
        locate_eq_ok_iff.mpr
          ⟨(address_place fixed node step value).trans stores.address,
            child?_place_same stores.takes value⟩
      exact trace_cons_eq_ok_iff.mpr ⟨step, value, [], located, rfl, rfl⟩
  | @through node child changed segment next rest step steps advances below inductionHypothesis =>
      have located : (node.place step changed).locate segment = .ok (step, changed) :=
        locate_eq_ok_iff.mpr
          ⟨advances.address_place below stable, child?_place_same advances.takes changed⟩
      exact trace_cons_eq_ok_iff.mpr
        ⟨step, changed, steps, located, inductionHypothesis stable.tail, rfl⟩

/-- A span that was followed to a scalar leads to the text that is put in its place. -/
theorem trace_placeAt {node holder : Node} {span : Span} {steps : List Step}
    (stable : Span.Stable span) (traced : node.trace span = .ok (steps, holder))
    (scalar : holder.kind = .scalar) (written : String) :
    (node.placeAt steps (.text written)).trace span = .ok (steps, .text written) := by
  cases span with
  | nil =>
      cases traced
      rfl
  | cons segment rest =>
      exact trace_of_route (.of_trace traced fun _ _ => .inr scalar) stable

/-- The nested documents that a write at the spans puts into text, from the outside in. -/
def rendered (bound depth : Nat) (node value : Node) : List Span → List Node
  | [] => []
  | [_] => []
  | span :: rest =>
      match node.resolve span >>= fun holder => holder.nestedDocument span with
      | .ok document =>
          (document.writeSpans bound (depth + 1) value rest).tree ::
            document.rendered bound (depth + 1) value rest
      | .error _ => []

/-- The documents that a write puts into text are the changed one and those inside it. -/
theorem rendered_cons {bound depth : Nat} {node holder document value : Node} {span : Span}
    {rest : List Span} {steps : List Step} (more : rest ≠ [])
    (traced : node.trace span = .ok (steps, holder))
    (nested : holder.nestedDocument span = .ok document) :
    node.rendered bound depth value (span :: rest) =
      (document.writeSpans bound (depth + 1) value rest).tree ::
        document.rendered bound (depth + 1) value rest := by
  rw [rendered]
  · rw [resolve_eq_ok_iff.mpr ⟨steps, traced⟩, Result.ok_bind, nested]
  · exact more

/-- A document that is read back from its text is the one that the text holds. -/
theorem nestedDocument_render {document : Node} (span : Span)
    (readBack : Yaml.parse (Yaml.render document) = .ok document) :
    (Node.text (Yaml.render document)).nestedDocument span = .ok document :=
  nestedDocument_eq_ok_iff.mpr ⟨_, rfl, readBack⟩

/-- A write at stable spans is read back. -/
theorem readSpans_of_writeSpans {bound depth : Nat} {node value tree : Node} {spans : List Span}
    (stable : ∀ span ∈ spans, Span.Stable span)
    (readBack : ∀ document ∈ node.rendered bound depth value spans,
      Yaml.parse (Yaml.render document) = .ok document)
    (written : node.writeSpans bound depth value spans = .done tree) :
    tree.readSpans bound depth spans = .ok value := by
  induction spans generalizing node depth tree with
  | nil => cases written
  | cons span rest inductionHypothesis =>
      by_cases more : rest = []
      · subst more
        cases span with
        | nil => cases written
        | cons segment rest =>
            obtain ⟨steps, route⟩ := writeSpan_eq_done_iff.mp written
            have traced := trace_of_route route (stable _ (by simp))
            exact resolve_eq_ok_iff.mpr ⟨steps, traced⟩
      · obtain ⟨room, steps, holder, document, edited, traced, nested, changed, rfl⟩ :=
          (writeSpans_cons_eq_done_iff more).mp written
        rw [rendered_cons more traced nested, changed] at readBack
        have again := trace_placeAt (stable span (by simp)) traced
          (kind_of_nestedDocument nested) (Yaml.render edited)
        have accepted := nestedDocument_render span (readBack edited (by simp [Edit.done]))
        have restRead := inductionHypothesis
          (fun span member => stable span (List.mem_cons_of_mem _ member))
          (fun document member => readBack document (List.mem_cons_of_mem _ member)) changed
        exact (readSpans_cons_eq_ok_iff more).mpr
          ⟨room, steps, _, edited, again, accepted, restRead⟩

/-- A value that was written at a stable path is read at that path, if each nested document that
the write put into text is read back from it. -/
theorem read_write {path : Path} {bound : Nat} {node value tree : Node} (stable : path.Stable)
    (readBack : ∀ document ∈ node.rendered bound 0 value path.spans,
      Yaml.parse (Yaml.render document) = .ok document)
    (written : node.write path value bound = .done tree) : tree.read path bound = .ok value :=
  readSpans_of_writeSpans stable readBack written

/-- A port in the configuration of an item is read back after it was changed. -/
theorem read_write_port :
    ∃ path tree, Path.parse "items[name=app].config|port" = .ok path ∧
      (Node.mapping [("items", .sequence [.mapping [("name", .text "app"),
        ("config", .text "port: 80")]])]).write path (.number (.whole 81)) 1 = .done tree ∧
      tree.read path 1 = .ok (.number (.whole 81)) := by
  let path : Path := ⟨[[.key "items", .predicate "name" "app", .key "config"], [.key "port"]],
    "items[name=app].config|port"⟩
  have parsed : Path.parse "items[name=app].config|port" = .ok path := by decide +kernel
  have written : (Node.mapping [("items", .sequence [.mapping [("name", .text "app"),
        ("config", .text "port: 80")]])]).write path (.number (.whole 81)) 1 =
      .done (.mapping [("items", .sequence [.mapping [("name", .text "app"),
        ("config", .text "port: 81\n")]])]) := by decide +kernel
  exact ⟨path, _, parsed, written, read_write (by decide +kernel) (by decide +kernel) written⟩

end Node

end Graft
