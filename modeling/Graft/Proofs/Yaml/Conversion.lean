/-
This file shows that nodes and values turn into each other without loss: every node comes back,
and of the values those without tags and without keys other than texts.
-/

import Graft.Proofs.Yaml.KeyText

namespace Graft

open Yaml

namespace Yaml.Value

/-- A pair is put into a mapping. A key that is there keeps its place, and a new key comes last. -/
def put (key value : Value) : List (Value × Value) → List (Value × Value)
  | [] => [(key, value)]
  | (name, old) :: rest =>
      if same name key then (name, value) :: rest else (name, old) :: put key value rest

/-- A new key comes last. -/
theorem put_new {key : Value} {pairs : List (Value × Value)}
    (new : ∀ pair ∈ pairs, same pair.1 key = false) (value : Value) :
    put key value pairs = pairs ++ [(key, value)] := by
  induction pairs with
  | nil => rfl
  | cons pair rest inductionHypothesis =>
      obtain ⟨first, others⟩ := List.forall_mem_cons.mp new
      simp [put, first, inductionHypothesis others]

end Yaml.Value

namespace Node

mutual

/-- No mapping in a node has a key twice. -/
def Keyed : Node → Prop
  | .mapping entries => (Entries.keys entries).Nodup ∧ EntriesKeyed entries
  | .sequence items => ItemsKeyed items
  | _ => True

def ItemsKeyed : List Node → Prop
  | [] => True
  | item :: rest => item.Keyed ∧ ItemsKeyed rest

def EntriesKeyed : List (String × Node) → Prop
  | [] => True
  | (_, child) :: rest => child.Keyed ∧ EntriesKeyed rest

end

theorem entriesKeyed_iff {entries : List (String × Node)} :
    EntriesKeyed entries ↔ ∀ entry ∈ entries, entry.2.Keyed := by
  induction entries with
  | nil => simp [EntriesKeyed]
  | cons entry rest inductionHypothesis => simp [EntriesKeyed, inductionHypothesis]

/-- Keys that differ are different values. -/
theorem pairwise_entryValues {entries : List (String × Node)}
    (distinct : (Entries.keys entries).Nodup) :
    (entryValues entries).Pairwise fun first second => Value.same first.1 second.1 = false := by
  rw [Entries.keys, List.nodup_iff_pairwise_ne, List.pairwise_map] at distinct
  rw [entryValues_eq_map, List.pairwise_map]
  exact distinct.imp fun different => by simpa [Value.same] using different

/-- The entries of a node, put one after another into a mapping of values. -/
def putEntries (entries : List (String × Node)) : List (Value × Value) :=
  entries.foldl (fun pairs entry => Value.put (.text entry.1) entry.2.toValue pairs) []

/-- Entries with new and distinct keys are put behind those that were put before. -/
theorem foldl_put_entryValues (front entries : List (String × Node))
    (distinct : (Entries.keys (front ++ entries)).Nodup) :
    entries.foldl (fun pairs entry => Value.put (.text entry.1) entry.2.toValue pairs)
      (entryValues front) = entryValues (front ++ entries) := by
  induction entries generalizing front with
  | nil => rw [List.append_nil, List.foldl_nil]
  | cons entry rest inductionHypothesis =>
      have new : ∀ pair ∈ entryValues front, Value.same pair.1 (.text entry.1) = false := by
        simp only [Entries.keys, List.map_append, List.nodup_append, List.map_cons] at distinct
        rw [entryValues_eq_map, List.forall_mem_map]
        intro earlier member
        have different := distinct.2.2 _ (List.mem_map_of_mem member) _ List.mem_cons_self
        simpa [Value.same] using different
      have longer : entryValues front ++ [(.text entry.1, entry.2.toValue)] =
          entryValues (front ++ [entry]) := by
        simp [entryValues_eq_map]
      rw [List.foldl_cons, Value.put_new new, longer,
        inductionHypothesis _ (by simpa using distinct), List.append_assoc, List.singleton_append]

/-- No entry of a keyed mapping takes the place of another one when they are put. -/
theorem toValue_eq_putEntries {entries : List (String × Node)}
    (distinct : (Entries.keys entries).Nodup) :
    (Node.mapping entries).toValue = .mapping (putEntries entries) := by
  have all : putEntries entries = entryValues ([] ++ entries) :=
    foldl_put_entryValues [] entries distinct
  rw [Node.toValue, all, List.nil_append]

mutual

/-- The value of a node has no key twice exactly when the node has none. -/
theorem keyed_toValue_iff (node : Node) : node.toValue.Keyed ↔ node.Keyed := by
  match node with
  | .mapping entries =>
      rw [Node.toValue, Value.Keyed, Keyed, entriesKeyed_entryValues_iff entries]
      exact and_congr_left fun _ => ⟨nodup_of_entryValues, pairwise_entryValues⟩
  | .sequence items => exact itemsKeyed_itemValues_iff items
  | .text _ | .number _ | .boolean _ | .null => exact .rfl

theorem itemsKeyed_itemValues_iff (items : List Node) :
    Value.ItemsKeyed (itemValues items) ↔ ItemsKeyed items := by
  match items with
  | [] => exact .rfl
  | item :: rest => exact and_congr (keyed_toValue_iff item) (itemsKeyed_itemValues_iff rest)

theorem entriesKeyed_entryValues_iff (entries : List (String × Node)) :
    Value.EntriesKeyed (entryValues entries) ↔ EntriesKeyed entries := by
  match entries with
  | [] => exact .rfl
  | (key, child) :: rest =>
      rw [entryValues, Value.EntriesKeyed, EntriesKeyed, keyed_toValue_iff child,
        entriesKeyed_entryValues_iff rest]
      exact and_iff_right trivial

end

end Node

namespace Yaml

mutual

/-- The node of a value has no key twice, even where keys of the value have the same text. -/
theorem Value.keyed_toNode (value : Value) : value.toNode.Keyed := by
  match value with
  | .mapping pairs =>
      refine ⟨Entries.nodup_ofPairs _, Node.entriesKeyed_iff.mpr fun entry member => ?_⟩
      exact Node.entriesKeyed_iff.mp (entriesKeyed_toPairs pairs) entry
        (Entries.mem_of_mem_ofPairs member)
  | .sequence items => exact itemsKeyed_toNodes items
  | .tagged _ content => exact content.keyed_toNode
  | .null | .boolean _ | .number _ | .text _ => trivial

theorem itemsKeyed_toNodes (items : List Value) : Node.ItemsKeyed (toNodes items) := by
  match items with
  | [] => trivial
  | item :: rest => exact ⟨item.keyed_toNode, itemsKeyed_toNodes rest⟩

theorem entriesKeyed_toPairs (pairs : List (Value × Value)) :
    Node.EntriesKeyed (toPairs pairs) := by
  match pairs with
  | [] => trivial
  | (_, value) :: rest => exact ⟨value.keyed_toNode, entriesKeyed_toPairs rest⟩

end

namespace Value

def IsText (value : Value) : Prop := ∃ text, value = .text text

mutual

/-- A plain value has no tags, and all keys of its mappings are texts. -/
def Plain : Value → Prop
  | .sequence items => ItemsPlain items
  | .mapping pairs => EntriesPlain pairs
  | .tagged _ _ => False
  | _ => True

def ItemsPlain : List Value → Prop
  | [] => True
  | item :: rest => item.Plain ∧ ItemsPlain rest

def EntriesPlain : List (Value × Value) → Prop
  | [] => True
  | (key, value) :: rest => key.IsText ∧ value.Plain ∧ EntriesPlain rest

end

theorem entriesPlain_iff {pairs : List (Value × Value)} :
    EntriesPlain pairs ↔ ∀ pair ∈ pairs, pair.1.IsText ∧ pair.2.Plain := by
  induction pairs with
  | nil => simp [EntriesPlain]
  | cons pair rest inductionHypothesis => simp [EntriesPlain, inductionHypothesis, and_assoc]

mutual

/-- A value that turns into a node and back without loss is plain. This holds even where values
are compared like keys, without regard to the order of entries. -/
theorem plain_of_same {value : Value} {node : Node} (alike : same value node.toValue = true) :
    value.Plain := by
  match value, node with
  | .sequence items, .sequence nodes =>
      rw [Node.toValue, same] at alike
      exact itemsPlain_of_same alike
  | .mapping pairs, .mapping entries =>
      rw [Node.toValue, same, Bool.and_eq_true] at alike
      exact entriesPlain_of_same alike.2
  | .tagged _ _, node => cases node <;> simp [Node.toValue, same] at alike
  | .null, _ | .boolean _, _ | .number _, _ | .text _, _ => trivial
  | .sequence _, .mapping _ | .sequence _, .text _ | .sequence _, .number _
  | .sequence _, .boolean _ | .sequence _, .null => simp [Node.toValue, same] at alike
  | .mapping _, .sequence _ | .mapping _, .text _ | .mapping _, .number _
  | .mapping _, .boolean _ | .mapping _, .null => simp [Node.toValue, same] at alike

theorem itemsPlain_of_same {items : List Value} {nodes : List Node}
    (alike : sameItems items (itemValues nodes) = true) : ItemsPlain items := by
  match items, nodes with
  | [], _ => trivial
  | item :: rest, [] => simp [itemValues, sameItems] at alike
  | item :: rest, node :: nodes =>
      rw [itemValues, sameItems, Bool.and_eq_true] at alike
      exact ⟨plain_of_same alike.1, itemsPlain_of_same alike.2⟩

theorem entriesPlain_of_same {pairs : List (Value × Value)} {entries : List (String × Node)}
    (alike : sameEntries pairs (entryValues entries) = true) : EntriesPlain pairs := by
  match pairs with
  | [] => trivial
  | (key, value) :: rest =>
      rw [sameEntries, Bool.and_eq_true, entryValues_eq_map] at alike
      obtain ⟨found, restAlike⟩ := alike
      simp only [List.any_map, List.any_eq_true, Function.comp_apply, Bool.and_eq_true] at found
      -- The pair is found again among entries whose keys are texts, so its key is a text.
      obtain ⟨entry, -, sameKey, sameValue⟩ := found
      refine ⟨?_, plain_of_same sameValue, entriesPlain_of_same (entryValues_eq_map _ ▸ restAlike)⟩
      cases key <;> simp [same, IsText] at sameKey ⊢

end

theorem sameNumber_self (number : Number) : sameNumber number number = true := by
  cases number with
  | whole value => simp [sameNumber]
  | real value =>
      rw [sameNumber]
      split <;> simp

mutual

/-- A value is the same as itself. -/
theorem same_self (value : Value) : same value value = true := by
  match value with
  | .null => rfl
  | .boolean _ | .text _ => simp [same]
  | .number value => exact sameNumber_self value
  | .sequence items => exact sameItems_self items
  | .mapping pairs => simpa [same] using sameEntries_of_subset (List.Subset.refl pairs)
  | .tagged tag content => simp [same, content.same_self]

theorem sameItems_self (items : List Value) : sameItems items items = true := by
  match items with
  | [] => rfl
  | item :: rest => simp [sameItems, item.same_self, sameItems_self rest]

theorem sameEntries_of_subset {pairs all : List (Value × Value)} (subset : pairs ⊆ all) :
    sameEntries pairs all = true := by
  match pairs with
  | [] => rfl
  | (key, value) :: rest =>
      obtain ⟨member, others⟩ := List.cons_subset.mp subset
      rw [sameEntries, Bool.and_eq_true, List.any_eq_true]
      refine ⟨⟨_, member, ?_⟩, sameEntries_of_subset others⟩
      simp [key.same_self, value.same_self]

end

/-- Keys that are texts and not the same have texts that are apart. -/
theorem nodup_keyTexts {pairs : List (Value × Value)} (plain : EntriesPlain pairs)
    (apart : pairs.Pairwise fun first second => same first.1 second.1 = false) :
    (keyTexts pairs).Nodup := by
  rw [keyTexts, List.nodup_iff_pairwise_ne, List.pairwise_map]
  refine apart.imp_of_mem fun {first second} firstMember secondMember different alike => ?_
  obtain ⟨firstText, firstKey⟩ := (entriesPlain_iff.mp plain first firstMember).1
  obtain ⟨secondText, secondKey⟩ := (entriesPlain_iff.mp plain second secondMember).1
  rw [firstKey, secondKey] at different alike
  simp [same, show firstText = secondText from alike] at different

mutual

/-- A plain value without a key twice comes back from its node. -/
theorem toValue_toNode {value : Value} (keyed : value.Keyed) (plain : value.Plain) :
    value.toNode.toValue = value := by
  match value with
  | .mapping pairs =>
      obtain ⟨apart, entriesKeyed⟩ := keyed
      -- The texts of the keys are the keys themselves, so no entry takes the place of another.
      have distinct : (Entries.keys (toPairs pairs)).Nodup :=
        keys_toPairs pairs ▸ nodup_keyTexts plain apart
      rw [toNode, Entries.ofPairs_of_nodup distinct, Node.toValue,
        entryValues_toPairs entriesKeyed plain]
  | .sequence items => rw [toNode, Node.toValue, itemValues_toNodes keyed plain]
  | .tagged _ _ => exact absurd plain id
  | .null | .boolean _ | .number _ | .text _ => rfl

theorem itemValues_toNodes {items : List Value} (keyed : ItemsKeyed items)
    (plain : ItemsPlain items) : itemValues (toNodes items) = items := by
  match items with
  | [] => rfl
  | item :: rest =>
      rw [toNodes, itemValues, toValue_toNode keyed.1 plain.1, itemValues_toNodes keyed.2 plain.2]

theorem entryValues_toPairs {pairs : List (Value × Value)} (keyed : EntriesKeyed pairs)
    (plain : EntriesPlain pairs) : entryValues (toPairs pairs) = pairs := by
  match pairs with
  | [] => rfl
  | (key, value) :: rest =>
      obtain ⟨-, valueKeyed, restKeyed⟩ := keyed
      obtain ⟨⟨text, rfl⟩, valuePlain, restPlain⟩ := plain
      rw [toPairs, entryValues, toValue_toNode valueKeyed valuePlain,
        entryValues_toPairs restKeyed restPlain]
      rfl

end

end Value

/-- Every node comes back from its value, with its keys in their order; its entries are the value
of a mapping whether they are listed or put one after another. A value comes back from its node
exactly when it has no tag and all keys of its mappings are texts, and no other value comes back if
the order of entries is disregarded. No key comes twice on the way. -/
theorem conversion_lossless :
    (∀ node : Node, node.Keyed → node.toValue.Keyed ∧ node.toValue.toNode = node) ∧
    (∀ entries : List (String × Node), (Node.mapping entries).Keyed →
      (Node.mapping entries).toValue = .mapping (Node.putEntries entries)) ∧
    ∀ value : Value, value.Keyed → value.toNode.Keyed ∧
      (value.toNode.toValue = value ↔ value.Plain) ∧
      (value.same value.toNode.toValue = true ↔ value.Plain) := by
  refine ⟨?_, fun entries keyed => Node.toValue_eq_putEntries keyed.1, ?_⟩
  · intro node keyed
    have valueKeyed := node.keyed_toValue_iff.mpr keyed
    exact ⟨valueKeyed, node.toNode_toValue valueKeyed⟩
  · intro value keyed
    have back (plain : value.Plain) : value.toNode.toValue = value :=
      Value.toValue_toNode keyed plain
    have alike (same : value.toNode.toValue = value) :
        value.same value.toNode.toValue = true := by
      rw [same]
      exact value.same_self
    exact ⟨value.keyed_toNode, ⟨fun same => Value.plain_of_same (alike same), back⟩,
      ⟨Value.plain_of_same, fun plain => alike (back plain)⟩⟩

/-- A document with texts as keys comes back from its node, and one with a number as a key and a
tagged value does not. -/
theorem conversion_lossless_tagged :
    let plain : Value := .mapping [(.text "ports", .sequence [.number (.whole 80), .null]),
      (.text "kind", .mapping [(.text "1", .boolean true)])]
    let entries : List (String × Node) := [("ports", .sequence [.number (.whole 80), .null]),
      ("kind", .mapping [("1", .boolean true)])]
    let tagged : Value := .mapping [(.number (.whole 1), .tagged "t" (.text "a"))]
    Denotes "ports:\n- 80\n- ~\nkind:\n  '1': true\n" [plain] ∧ Denotes "1: !t a\n" [tagged] ∧
      plain.Keyed ∧ plain.toNode = .mapping entries ∧ plain.toNode.toValue = plain ∧
      (Node.mapping entries).Keyed ∧ (Node.mapping entries).toValue.toNode = .mapping entries ∧
      (Node.mapping entries).toValue = .mapping (Node.putEntries entries) ∧
      tagged.Keyed ∧ tagged.toNode.toValue ≠ tagged ∧ ¬ tagged.Plain := by
  intro plain entries tagged
  have plainDenotes : Denotes "ports:\n- 80\n- ~\nkind:\n  '1': true\n" [plain] := by
    decide +kernel
  have taggedDenotes : Denotes "1: !t a\n" [tagged] := by decide +kernel
  have plainKeyed : plain.Keyed := plainDenotes.keyed plain List.mem_cons_self
  have taggedKeyed : tagged.Keyed := taggedDenotes.keyed tagged List.mem_cons_self
  have isPlain : plain.Plain :=
    ⟨⟨_, rfl⟩, ⟨trivial, trivial, trivial⟩, ⟨_, rfl⟩, ⟨⟨_, rfl⟩, trivial, trivial⟩, trivial⟩
  have turned : plain.toNode = .mapping entries := by rfl
  have lost : tagged.toNode.toValue ≠ tagged := by decide +kernel
  obtain ⟨nodes, listed, values⟩ := conversion_lossless
  obtain ⟨nodeKeyed, back, -⟩ := values plain plainKeyed
  obtain ⟨-, taggedBack, -⟩ := values tagged taggedKeyed
  rw [turned] at nodeKeyed
  exact ⟨plainDenotes, taggedDenotes, plainKeyed, turned, back.mpr isPlain, nodeKeyed,
    (nodes _ nodeKeyed).2, listed entries nodeKeyed, taggedKeyed, lost, mt taggedBack.mpr lost⟩

end Yaml

end Graft
