/-
This file shows that a write treats a null entry of a mapping as one that is missing.
-/

import Graft.Path.Parse
import Graft.Proofs.Node.Equality
import Graft.Proofs.Path.Route

namespace Graft

namespace Node

variable {node : Node} {name : String} {entries : List (String × Node)}

/-- What a write makes where there is nothing: the value, or the container that the first segment
needs with the rest written in it. -/
def made (value : Node) : Span → Edit
  | [] => .done value
  | segment :: rest => Node.null.writeSpan (segment :: rest) value

/-- Under a key that is missing or null a write puts what it makes of nothing. -/
theorem writeSegments_unset
    (unset : Entries.find? name entries = none ∨ Entries.find? name entries = some .null)
    (value : Node) (rest : Span) :
    (Node.mapping entries).writeSegments value (.key name :: rest) =
      ⟨.mapping (Entries.put name (made value rest).tree entries),
        (made value rest).failure?⟩ := by
  cases rest with
  | nil =>
      have stores : Stores value (.mapping entries) (.key name) (.key name) := by
        rcases unset with missing | null
        · exact .added missing
        · exact .replaced rfl null fun _ => .inl rfl
      rw [writeSegments, assign_eq_ok_iff.mpr ⟨_, stores, rfl⟩]
      rfl
  | cons next rest =>
      have advances : Advances next (.mapping entries) (.key name) (.key name)
          next.container.empty := by
        rcases unset with missing | null
        · exact .added missing
        · exact .filled rfl null
      simp only [writeSegments, advance_eq_ok_iff.mpr advances]
      rfl

/-- A node below which keys lead to a mapping is a mapping itself. -/
theorem exists_mapping_of_entryAt? {keys : List String}
    (leads : node.entryAt? keys = some (.mapping entries)) : ∃ outer, node = .mapping outer := by
  cases keys with
  | nil => exact ⟨entries, Option.some.inj leads⟩
  | cons key keys =>
      cases node with
      | mapping outer => exact ⟨outer, rfl⟩
      | _ => cases leads

/-- A write that goes on with a key after keys that lead to a mapping is a write in that mapping. -/
theorem writeSegments_below {keys : List String}
    (leads : node.entryAt? keys = some (.mapping entries)) (name : String) (rest : Span)
    (value : Node) :
    node.writeSegments value (keys.map .key ++ .key name :: rest) =
      let edit := (Node.mapping entries).writeSegments value (.key name :: rest)
      ⟨node.placeAt (keys.map .key) edit.tree, edit.failure?⟩ := by
  induction keys generalizing node with
  | nil =>
      obtain rfl := Option.some.inj leads
      rfl
  | cons key keys inductionHypothesis =>
      obtain ⟨child, found, below⟩ := Option.bind_eq_some_iff.mp leads
      rw [entry?_eq_child?] at found
      obtain ⟨outer, rfl⟩ := exists_mapping_of_entryAt? leads
      obtain ⟨inner, rfl⟩ := exists_mapping_of_entryAt? below
      -- Whether or not more keys follow, the next segment is a key, which suits the child.
      obtain ⟨next, more, spelled⟩ : ∃ next more,
          keys.map Segment.key ++ .key name :: rest = .key next :: more := by
        cases keys with
        | nil => exact ⟨_, _, rfl⟩
        | cons next keys => exact ⟨_, _, rfl⟩
      have advances : Advances (.key next) (.mapping outer) (.key key) (.key key)
          (.mapping inner) := .kept rfl found rfl
      have inside := inductionHypothesis below
      rw [spelled] at inside
      simp only [List.map_cons, List.cons_append, spelled, writeSegments,
        advance_eq_ok_iff.mpr advances, inside, placeAt, found]

/-- A write through keys that lead to a mapping puts under a key that is missing or null there what
it makes of nothing. -/
theorem write_unset {path : Path} {keys : List String} {rest : Span}
    (single : path.spans = [(keys ++ [name]).map .key ++ rest])
    (leads : node.entryAt? keys = some (.mapping entries))
    (unset : Entries.find? name entries = none ∨ Entries.find? name entries = some .null)
    (value : Node) (bound : Nat) :
    node.write path value bound =
      ⟨node.placeAt (keys.map .key) (.mapping (Entries.put name (made value rest).tree entries)),
        (made value rest).failure?⟩ := by
  have spelled : (keys ++ [name]).map Segment.key ++ rest = keys.map .key ++ .key name :: rest := by
    simp
  rw [write, single, spelled, writeSpans]
  obtain ⟨outer, rfl⟩ := exists_mapping_of_entryAt? leads
  have written := writeSegments_below leads name rest value
  rw [writeSegments_unset unset] at written
  cases keys with
  | nil => exact written
  | cons key keys => exact written

/-- An entry of a mapping that is null counts as absent: a write at a path through its key, which
stands once in the mapping, does the same with the entry and without it, whatever follows the key.
Both writes succeed, or both fail with the same cause, and both leave the same node under the key,
in the old place of the entry or behind the other entries. -/
theorem write_null_entry {path : Path} {keys : List String} {rest : Span}
    {front back : List (String × Node)}
    (single : path.spans = [(keys ++ [name]).map .key ++ rest])
    (leads : node.entryAt? keys = some (.mapping (front ++ (name, .null) :: back)))
    (once : name ∉ Entries.keys (front ++ back)) (value : Node) (bound : Nat) :
    ∃ child failure?,
      node.write path value bound =
        ⟨node.placeAt (keys.map .key) (.mapping (front ++ (name, child) :: back)), failure?⟩ ∧
      (node.placeAt (keys.map .key) (.mapping (front ++ back))).write path value bound =
        ⟨node.placeAt (keys.map .key) (.mapping (front ++ back ++ [(name, child)])),
          failure?⟩ := by
  have absent : name ∉ Entries.keys front := by
    intro member
    apply once
    rw [Entries.keys, List.map_append]
    exact List.mem_append_left _ member
  have null : Entries.find? name (front ++ (name, .null) :: back) = some .null :=
    Entries.find?_middle absent .null back
  have missing : Entries.find? name (front ++ back) = none :=
    Entries.find?_eq_none_of_notMem once
  refine ⟨(made value rest).tree, (made value rest).failure?, ?_, ?_⟩
  · rw [write_unset single leads (.inr null), Entries.put_middle absent]
  · rw [write_unset single (entryAt?_placeAt_same leads _) (.inl missing), placeAt_placeAt,
      Entries.put_new once]

/-- With a null and without it a write adds the list that a predicate needs and fails there. -/
theorem write_null_entry_items :
    let items : Node := .sequence []
    let size : Node := .number (.whole 1)
    let node : Node := .mapping [("spec", .mapping [("items", .null), ("size", size)])]
    let without : Node := .mapping [("spec", .mapping [("size", size)])]
    ∃ path, Path.parse "spec.items[name=app][=x]" = .ok path ∧
      node.write path (.text "y") 16 =
        .failed (.mapping [("spec", .mapping [("items", items), ("size", size)])])
          (.noMatch "[name=app]") ∧
      without.write path (.text "y") 16 =
        .failed (.mapping [("spec", .mapping [("size", size), ("items", items)])])
          (.noMatch "[name=app]") := by
  intro items size node without
  let rest : Span := [.predicate "name" "app", .predicate "" "x"]
  let path : Path := ⟨[.key "spec" :: .key "items" :: rest], "spec.items[name=app][=x]"⟩
  have parsed : Path.parse "spec.items[name=app][=x]" = .ok path := by decide +kernel
  have written : node.write path (.text "y") 16 =
      .failed (.mapping [("spec", .mapping [("items", items), ("size", size)])])
        (.noMatch "[name=app]") := by decide +kernel
  have single : path.spans = [(["spec"] ++ ["items"]).map .key ++ rest] := rfl
  have leads : node.entryAt? ["spec"] =
      some (.mapping ([] ++ ("items", .null) :: [("size", size)])) := rfl
  obtain ⟨child, failure?, first, second⟩ :=
    write_null_entry single leads (by decide) (.text "y") 16
  obtain ⟨trees, rfl⟩ := Edit.mk.inj (written.symm.trans first)
  have same : some items = some child := congrArg (Node.entryAt? · ["spec", "items"]) trees
  obtain rfl := Option.some.inj same
  exact ⟨path, parsed, written, second⟩

end Node

end Graft
