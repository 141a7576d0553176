/-
This file compares a tree with one that keeps everything in it and may have more.
-/

import Graft.Proofs.Node.Place

namespace Graft

namespace Node

mutual

/-- The second tree keeps what the first one holds: a scalar stays the same scalar, a container
keeps its kind and its children, and only a null may become something else. -/
inductive Within : Node → Node → Prop where
  | null (after : Node) : Within .null after
  | scalar {node : Node} (scalar : node.kind = .scalar) : Within node node
  | mapping {before after : List (String × Node)} (kept : EntriesWithin before after) :
      Within (.mapping before) (.mapping after)
  | sequence {before after : List Node} (kept : ItemsWithin before after) :
      Within (.sequence before) (.sequence after)

/-- The entries keep their keys in their order, and new entries come after them. -/
inductive EntriesWithin : List (String × Node) → List (String × Node) → Prop where
  | added (entries : List (String × Node)) : EntriesWithin [] entries
  | kept {key : String} {old new : Node} {before after : List (String × Node)}
      (value : Within old new) (rest : EntriesWithin before after) :
      EntriesWithin ((key, old) :: before) ((key, new) :: after)

/-- The items keep their positions, and new items come after them. -/
inductive ItemsWithin : List Node → List Node → Prop where
  | added (items : List Node) : ItemsWithin [] items
  | kept {old new : Node} {before after : List Node}
      (item : Within old new) (rest : ItemsWithin before after) :
      ItemsWithin (old :: before) (new :: after)

end

mutual

/-- A tree keeps what it holds itself. -/
theorem Within.refl (node : Node) : Within node node := by
  match node with
  | .mapping entries => exact .mapping (EntriesWithin.refl entries)
  | .sequence items => exact .sequence (ItemsWithin.refl items)
  | .text _ | .number _ | .boolean _ | .null => exact .scalar rfl

theorem EntriesWithin.refl (entries : List (String × Node)) : EntriesWithin entries entries := by
  match entries with
  | [] => exact .added []
  | (key, value) :: rest => exact .kept (Within.refl value) (EntriesWithin.refl rest)

theorem ItemsWithin.refl (items : List Node) : ItemsWithin items items := by
  match items with
  | [] => exact .added []
  | item :: rest => exact .kept (Within.refl item) (ItemsWithin.refl rest)

end

/-- The entries are kept when a value that keeps the old one is put under a key. -/
theorem EntriesWithin.put {key : String} {child : Node} {entries : List (String × Node)}
    (below : Within ((Entries.find? key entries).getD .null) child) :
    EntriesWithin entries (Entries.put key child entries) := by
  induction entries with
  | nil => exact .added _
  | cons pair rest inductionHypothesis =>
      obtain ⟨name, old⟩ := pair
      rw [Entries.find?_cons] at below
      rw [Entries.put]
      split at below
      · rename_i same
        subst same
        rw [if_pos rfl]
        exact .kept below (.refl rest)
      · rename_i different
        rw [if_neg different]
        exact .kept (.refl old) (inductionHypothesis below)

/-- The items are kept when an item is exchanged for one that keeps it. -/
theorem ItemsWithin.set {index : Nat} {child : Node} {items : List Node}
    (below : Within (items[index]?.getD .null) child) :
    ItemsWithin items (items.set index child) := by
  induction items generalizing index with
  | nil => exact .added _
  | cons item rest inductionHypothesis =>
      cases index with
      | zero => exact .kept below (.refl rest)
      | succ index => exact .kept (.refl item) (inductionHypothesis below)

/-- The items are kept when others come after them. -/
theorem ItemsWithin.append (items others : List Node) : ItemsWithin items (items ++ others) := by
  induction items with
  | nil => exact .added others
  | cons item rest inductionHypothesis => exact .kept (.refl item) inductionHypothesis

/-- A tree is kept when a child is placed in it that keeps the old child. -/
theorem Within.place {node child : Node} {step : Step}
    (below : Within ((node.child? step).getD .null) child) :
    Within node (node.place step child) := by
  cases node <;> cases step
  case mapping.key entries name => exact .mapping (.put below)
  case sequence.position items index =>
      rw [Node.place]
      split
      · exact .sequence (.set below)
      · exact .sequence (.append items [child])
  all_goals exact .refl _

end Node

end Graft
