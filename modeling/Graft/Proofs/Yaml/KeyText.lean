/-
This file shows which entries of a value stay when its keys turn into texts: all of them do, in
their order, exactly when no two keys of a mapping have the same text.
-/

import Graft.Proofs.Yaml.ReadBack

namespace Graft.Yaml

mutual

/-- The node has what the value has: a mapping has an entry with the text of the key and the node
of the value for each entry, in the same order. -/
inductive Kept : Value → Node → Prop where
  | null : Kept .null .null
  | boolean (value : Bool) : Kept (.boolean value) (.boolean value)
  | number (value : Number) : Kept (.number value) (.number value)
  | text (value : String) : Kept (.text value) (.text value)
  | sequence {values : List Value} {items : List Node} (kept : ItemsKept values items) :
      Kept (.sequence values) (.sequence items)
  | mapping {pairs : List (Value × Value)} {entries : List (String × Node)}
      (kept : EntriesKept pairs entries) : Kept (.mapping pairs) (.mapping entries)
  | tagged {tag : String} {content : Value} {node : Node} (kept : Kept content node) :
      Kept (.tagged tag content) node

inductive ItemsKept : List Value → List Node → Prop where
  | nil : ItemsKept [] []
  | cons {value : Value} {item : Node} {values : List Value} {items : List Node}
      (first : Kept value item) (rest : ItemsKept values items) :
      ItemsKept (value :: values) (item :: items)

inductive EntriesKept : List (Value × Value) → List (String × Node) → Prop where
  | nil : EntriesKept [] []
  | cons {key value : Value} {child : Node} {pairs : List (Value × Value)}
      {entries : List (String × Node)} (first : Kept value child)
      (rest : EntriesKept pairs entries) :
      EntriesKept ((key, value) :: pairs) ((keyText key, child) :: entries)

end

/-- The texts of the keys of a mapping. -/
def keyTexts (pairs : List (Value × Value)) : List String :=
  pairs.map fun pair => keyText pair.1

namespace Value

mutual

/-- No two keys of a mapping in a value have the same text. -/
def KeyTextsApart : Value → Prop
  | .sequence items => ItemsApart items
  | .mapping pairs => (keyTexts pairs).Nodup ∧ EntriesApart pairs
  | .tagged _ content => content.KeyTextsApart
  | _ => True

def ItemsApart : List Value → Prop
  | [] => True
  | item :: rest => item.KeyTextsApart ∧ ItemsApart rest

def EntriesApart : List (Value × Value) → Prop
  | [] => True
  | (_, value) :: rest => value.KeyTextsApart ∧ EntriesApart rest

end

end Value

/-- The pairs of a mapping have the texts of its keys and the nodes of its values. -/
theorem toPairs_eq_map (pairs : List (Value × Value)) :
    toPairs pairs = pairs.map fun pair => (keyText pair.1, pair.2.toNode) := by
  induction pairs with
  | nil => rfl
  | cons pair rest inductionHypothesis => exact congrArg (_ :: ·) inductionHypothesis

theorem keys_toPairs (pairs : List (Value × Value)) :
    Entries.keys (toPairs pairs) = keyTexts pairs := by
  simp [toPairs_eq_map, Entries.keys, keyTexts]

/-- Entries that are kept have the texts of the keys. -/
theorem EntriesKept.keys_eq {pairs : List (Value × Value)} {entries : List (String × Node)}
    (kept : EntriesKept pairs entries) : Entries.keys entries = keyTexts pairs := by
  induction pairs generalizing entries with
  | nil =>
      cases kept
      rfl
  | cons pair rest inductionHypothesis =>
      cases kept with
      | cons _ restKept => exact congrArg (_ :: ·) (inductionHypothesis restKept)

mutual

/-- A value is kept as its node exactly when the texts of its keys are apart. -/
theorem kept_toNode_iff (value : Value) : Kept value value.toNode ↔ value.KeyTextsApart := by
  match value with
  | .null => exact ⟨fun _ => trivial, fun _ => .null⟩
  | .boolean value => exact ⟨fun _ => trivial, fun _ => .boolean value⟩
  | .number value => exact ⟨fun _ => trivial, fun _ => .number value⟩
  | .text value => exact ⟨fun _ => trivial, fun _ => .text value⟩
  | .sequence values =>
      constructor
      · intro kept
        cases kept with
        | sequence kept => exact (itemsKept_toNodes_iff values).mp kept
      · intro apart
        exact .sequence ((itemsKept_toNodes_iff values).mpr apart)
  | .mapping pairs =>
      constructor
      · intro kept
        cases kept with
        | mapping kept =>
            -- The node has each key once, so the texts that it has all of are apart.
            have distinct : (keyTexts pairs).Nodup := kept.keys_eq ▸ Entries.nodup_ofPairs _
            rw [Entries.ofPairs_of_nodup (keys_toPairs pairs ▸ distinct)] at kept
            exact ⟨distinct, (entriesKept_toPairs_iff pairs).mp kept⟩
      · rintro ⟨distinct, apart⟩
        rw [Value.toNode, Entries.ofPairs_of_nodup (keys_toPairs pairs ▸ distinct)]
        exact .mapping ((entriesKept_toPairs_iff pairs).mpr apart)
  | .tagged tag content =>
      constructor
      · intro kept
        cases kept with
        | tagged kept => exact (kept_toNode_iff content).mp kept
      · intro apart
        exact .tagged ((kept_toNode_iff content).mpr apart)

theorem itemsKept_toNodes_iff (values : List Value) :
    ItemsKept values (toNodes values) ↔ Value.ItemsApart values := by
  match values with
  | [] => exact ⟨fun _ => trivial, fun _ => .nil⟩
  | value :: rest =>
      constructor
      · intro kept
        cases kept with
        | cons first others =>
            exact ⟨(kept_toNode_iff value).mp first, (itemsKept_toNodes_iff rest).mp others⟩
      · rintro ⟨first, others⟩
        exact .cons ((kept_toNode_iff value).mpr first) ((itemsKept_toNodes_iff rest).mpr others)

theorem entriesKept_toPairs_iff (pairs : List (Value × Value)) :
    EntriesKept pairs (toPairs pairs) ↔ Value.EntriesApart pairs := by
  match pairs with
  | [] => exact ⟨fun _ => trivial, fun _ => .nil⟩
  | (key, value) :: rest =>
      constructor
      · intro kept
        cases kept with
        | cons first others =>
            exact ⟨(kept_toNode_iff value).mp first, (entriesKept_toPairs_iff rest).mp others⟩
      · rintro ⟨first, others⟩
        exact .cons ((kept_toNode_iff value).mpr first) ((entriesKept_toPairs_iff rest).mpr others)

end

/-- The node under a text is that of the first value whose key has the text. -/
theorem find?_toPairs (key : String) (pairs : List (Value × Value)) :
    Entries.find? key (toPairs pairs) =
      (pairs.find? fun pair => keyText pair.1 = key).map fun pair => pair.2.toNode := by
  induction pairs with
  | nil => rfl
  | cons pair rest inductionHypothesis =>
      rw [toPairs, Entries.find?_cons, inductionHypothesis, List.find?_cons]
      by_cases same : keyText pair.1 = key <;> simp [same]

/-- A value turns into a node without loss exactly when no two keys of a mapping in it have the
same text. Of the pairs of a mapping whose keys have the same text one entry is left, in the place
of the first of them and with the value of the last. -/
theorem toNode_keeps (value : Value) (pairs : List (Value × Value)) :
    (Kept value value.toNode ↔ value.KeyTextsApart) ∧
      ∃ entries, (Value.mapping pairs).toNode = .mapping entries ∧
        Entries.keys entries = (keyTexts pairs).eraseDups ∧
        ∀ key, Entries.find? key entries =
          (pairs.reverse.find? fun pair => keyText pair.1 = key).map fun pair => pair.2.toNode := by
  refine ⟨kept_toNode_iff value, _, rfl, ?_, fun key => ?_⟩
  · rw [Entries.keys_ofPairs, keys_toPairs]
  · rw [Entries.find?_ofPairs, toPairs_eq_map, ← List.map_reverse, ← toPairs_eq_map, find?_toPairs]

/-- Two keys of a mapping differ, one of them a number and the other a text, and one entry is left
of the two. -/
theorem toNode_sharedText :
    let value : Value := .mapping [(.number (.whole 1), .text "a"), (.text "1", .text "b")]
    Denotes "1: a\n'1': b\n" [value] ∧ value.Keyed ∧ value.toNode = .mapping [("1", .text "b")] ∧
      ¬ Kept value value.toNode := by
  intro value
  have denotes : Denotes "1: a\n'1': b\n" [value] := by decide +kernel
  refine ⟨denotes, denotes.keyed value (by simp), rfl, fun kept => ?_⟩
  have apart := ((kept_toNode_iff value).mp kept).1
  exact absurd apart (by decide +kernel)

end Graft.Yaml
