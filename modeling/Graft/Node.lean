/-
This file defines the trees that documents hold.
-/

import Graft.Entries
import Graft.Number

namespace Graft

/-- A node is a mapping, a sequence or a scalar. -/
inductive Kind where
  | mapping
  | sequence
  | scalar
  deriving DecidableEq, Repr

/-- A mapping keeps its keys in the order in which they came. -/
inductive Node where
  | mapping (entries : List (String × Node))
  | sequence (items : List Node)
  | text (value : String)
  | number (value : Number)
  | boolean (value : Bool)
  | null
  deriving Repr

instance : Inhabited Node := ⟨.null⟩

def Kind.name : Kind → String
  | .mapping => "mapping"
  | .sequence => "sequence"
  | .scalar => "scalar"

/-- The empty scalar is the empty text. -/
def Kind.empty : Kind → Node
  | .mapping => .mapping []
  | .sequence => .sequence []
  | .scalar => .text ""

namespace Node

def kind : Node → Kind
  | .mapping _ => .mapping
  | .sequence _ => .sequence
  | _ => .scalar

def isNull : Node → Bool
  | .null => true
  | _ => false

def isMapping : Node → Bool
  | .mapping _ => true
  | _ => false

def isSequence : Node → Bool
  | .sequence _ => true
  | _ => false

def isEmptyText : Node → Bool
  | .text value => value.isEmpty
  | _ => false

/-- The text of a scalar; null reads as the empty text, and a container has no text. -/
def scalarText? : Node → Option String
  | .text value => some value
  | .number value => some value.text
  | .boolean value => some (if value then "true" else "false")
  | .null => some ""
  | .mapping _ => none
  | .sequence _ => none

/-- The entry of a mapping under a key. -/
def entry? (node : Node) (key : String) : Option Node :=
  match node with
  | .mapping entries => Entries.find? key entries
  | _ => none

/-- The node that a chain of mapping keys leads to. -/
def entryAt? (node : Node) : List String → Option Node
  | [] => some node
  | key :: rest => (node.entry? key).bind fun child => child.entryAt? rest

end Node

end Graft
