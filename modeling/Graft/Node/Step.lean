/-
This file addresses the children of a node by concrete steps.
-/

import Graft.Node

namespace Graft

/-- A step names an entry of a mapping or a position in a sequence. -/
inductive Step where
  | key (name : String)
  | position (index : Nat)
  deriving DecidableEq, Repr

namespace Node

def child? : Node → Step → Option Node
  | .mapping entries, .key name => Entries.find? name entries
  | .sequence items, .position index => items[index]?
  | _, _ => none

/-- A child is put in its place; a new key or the position past the end comes last. -/
def place : Node → Step → Node → Node
  | .mapping entries, .key name, child => .mapping (Entries.put name child entries)
  | .sequence items, .position index, child =>
      if index < items.length then .sequence (items.set index child)
      else .sequence (items ++ [child])
  | node, _, _ => node

/-- The node that a list of steps leads to. -/
def at? (node : Node) : List Step → Option Node
  | [] => some node
  | step :: rest => (node.child? step).bind fun child => child.at? rest

/-- The node at the steps is replaced; steps that lead nowhere change nothing. -/
def placeAt (node : Node) : List Step → Node → Node
  | [], value => value
  | step :: rest, value =>
      match node.child? step with
      | some child => node.place step (child.placeAt rest value)
      | none => node

end Node

end Graft
