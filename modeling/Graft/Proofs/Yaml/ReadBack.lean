/-
This file shows that documents come back as the same nodes wherever their text is read back as the
same values.
-/

import Graft.Proofs.Entries
import Graft.Proofs.Yaml.Equality
import Graft.Proofs.Yaml.Keyed

namespace Graft

open Yaml

/-- The keys of the entries of a node turn into texts. -/
theorem entryValues_eq_map (entries : List (String × Node)) :
    entryValues entries = entries.map fun entry => (.text entry.1, entry.2.toValue) := by
  induction entries with
  | nil => rfl
  | cons entry rest inductionHypothesis => simp [entryValues, inductionHypothesis]

/-- A mapping whose entries have no key twice has distinct keys. -/
theorem nodup_of_entryValues {entries : List (String × Node)}
    (apart : (entryValues entries).Pairwise fun first second =>
      Value.same first.1 second.1 = false) : (Entries.keys entries).Nodup := by
  rw [entryValues_eq_map, List.pairwise_map] at apart
  rw [Entries.keys, List.nodup_iff_pairwise_ne, List.pairwise_map]
  refine apart.imp fun different same => ?_
  simp [Value.same, same] at different

mutual

/-- A node is turned into a value and back without loss, key order included. -/
theorem Node.toNode_toValue (node : Node) (keyed : node.toValue.Keyed) :
    node.toValue.toNode = node := by
  match node with
  | .mapping entries =>
      simp only [Node.toValue, Value.Keyed] at keyed
      rw [Node.toValue, Value.toNode, toPairs_entryValues entries keyed.2,
        Entries.ofPairs_of_nodup (nodup_of_entryValues keyed.1)]
  | .sequence items =>
      simp only [Node.toValue, Value.Keyed] at keyed
      rw [Node.toValue, Value.toNode, toNodes_itemValues items keyed]
  | .text _ | .number _ | .boolean _ | .null => rfl

theorem toNodes_itemValues (items : List Node) (keyed : Value.ItemsKeyed (itemValues items)) :
    toNodes (itemValues items) = items := by
  match items with
  | [] => rfl
  | item :: rest =>
      simp only [itemValues, Value.ItemsKeyed] at keyed
      rw [itemValues, toNodes, item.toNode_toValue keyed.1, toNodes_itemValues rest keyed.2]

theorem toPairs_entryValues (entries : List (String × Node))
    (keyed : Value.EntriesKeyed (entryValues entries)) :
    toPairs (entryValues entries) = entries := by
  match entries with
  | [] => rfl
  | (key, child) :: rest =>
      simp only [entryValues, Value.EntriesKeyed] at keyed
      rw [entryValues, toPairs, child.toNode_toValue keyed.2.1, toPairs_entryValues rest keyed.2.2]
      rfl

end

/-- A node and its value are both null or neither is. -/
theorem Node.isNull_toValue (node : Node) : node.toValue.isNull = node.isNull := by
  cases node <;> rfl

namespace Yaml

/-- The text has no fault, and its documents have these values. -/
structure Denotes (text : String) (values : List Value) : Prop where
  sound : (Stream.ofText text).fault? = none
  values : (Stream.ofText text).documents.map Value.ofTree = values.map .ok

instance (text : String) (values : List Value) : Decidable (Denotes text values) :=
  decidable_of_iff ((Stream.ofText text).fault? = none ∧
      (Stream.ofText text).documents.map Value.ofTree = values.map .ok)
    ⟨fun ⟨sound, values⟩ => ⟨sound, values⟩, fun ⟨sound, values⟩ => ⟨sound, values⟩⟩

/-- Documents without a fault are given in order, apart from those that are null. -/
theorem collectDocuments_eq_ok {trees : List Tree} {values : List Value}
    (read : trees.map Value.ofTree = values.map .ok) (count : Nat) :
    collectDocuments none count trees =
      .ok ((values.filter fun value => !value.isNull).map Value.toNode) := by
  induction trees generalizing values count with
  | nil =>
      obtain rfl : values = [] := by simpa using read.symm
      rfl
  | cons tree rest inductionHypothesis =>
      cases values with
      | nil => cases read
      | cons value others =>
          obtain ⟨first, later⟩ := List.cons.inj read
          rw [collectDocuments, first]
          simp only [inductionHypothesis later, Result.ok_bind, Result.pure_eq_ok]
          cases null : value.isNull <;> simp [null]

/-- The nodes of a stream are those of the values that its text denotes, apart from null. -/
theorem Denotes.parseStream {text : String} {values : List Value} (denotes : Denotes text values) :
    parseStream text = .ok ((values.filter fun value => !value.isNull).map Value.toNode) := by
  rw [Yaml.parseStream, denotes.sound]
  exact collectDocuments_eq_ok denotes.values 1

/-- A value and its node are both null or neither is. -/
theorem Value.isNull_toNode (value : Value) : value.toNode.isNull = value.isNull := by
  match value with
  | .tagged _ content => exact content.isNull_toNode
  | .null | .boolean _ | .number _ | .text _ | .sequence _ | .mapping _ => rfl

/-- No null document is given. -/
theorem isNull_of_collectDocuments {fault? : Option Fault} {count : Nat} {trees : List Tree}
    {documents : List Node} (collected : collectDocuments fault? count trees = .ok documents) :
    ∀ document ∈ documents, document.isNull = false := by
  induction trees generalizing count documents with
  | nil =>
      rw [collectDocuments.eq_def] at collected
      dsimp only at collected
      split at collected
      · cases collected
      · cases collected
        simp
  | cons tree rest inductionHypothesis =>
      rw [collectDocuments.eq_def] at collected
      dsimp only at collected
      split at collected
      · cases collected
      · rename_i value _
        obtain ⟨others, later, same⟩ := Result.bind_eq_ok.mp collected
        cases same
        split
        · exact inductionHypothesis later
        · rename_i given
          refine List.forall_mem_cons.mpr ⟨?_, inductionHypothesis later⟩
          rw [value.isNull_toNode]
          exact Bool.eq_false_iff.mpr given

/-- The values that a text denotes are keyed. -/
theorem Denotes.keyed {text : String} {values : List Value} (denotes : Denotes text values) :
    ∀ value ∈ values, value.Keyed := by
  intro value member
  have read : Except.ok value ∈ (Stream.ofText text).documents.map Value.ofTree := by
    rw [denotes.values]
    exact List.mem_map_of_mem member
  obtain ⟨tree, -, read⟩ := List.mem_map.mp read
  exact Value.keyed_of_ofTree read

/-- The text that documents are written as, with a mark between each two. -/
def streamText (documents : List Node) : String := Text.join "---\n" (documents.map render)

/-- Documents are read back when their text denotes the values that were written. -/
def ReadBack (documents : List Node) : Prop :=
  Denotes (streamText documents) (documents.map Node.toValue)

instance (documents : List Node) : Decidable (ReadBack documents) :=
  inferInstanceAs (Decidable (Denotes _ _))

/-- Documents that are read back and not null are given by their text. -/
theorem ReadBack.parseStream {documents : List Node} (readBack : ReadBack documents)
    (given : ∀ document ∈ documents, document.isNull = false) :
    Yaml.parseStream (streamText documents) = .ok documents := by
  rw [Denotes.parseStream readBack]
  have kept : (documents.map Node.toValue).filter (fun value => !value.isNull) =
      documents.map Node.toValue := by
    rw [List.filter_eq_self]
    simpa [Node.isNull_toValue] using given
  have same : ∀ document ∈ documents, document.toValue.toNode = document := by
    intro document member
    exact document.toNode_toValue (Denotes.keyed readBack _ (List.mem_map_of_mem member))
  rw [kept, List.map_map]
  exact congrArg Except.ok ((List.map_congr_left same).trans (List.map_id documents))

end Yaml

end Graft
