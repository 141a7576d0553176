/-
This file turns the text of documents into nodes and nodes into text.
-/

import Graft.Node
import Graft.Yaml.Render

namespace Graft

namespace Yaml

/-- The text of a mapping key. A container is written as a document without its last break, and the
text of one that cannot be written is empty. -/
def keyText : Value → String
  | .text value => value
  | .number value => value.text
  | .boolean value => if value then "true" else "false"
  | .null => "null"
  | .tagged _ content => keyText content
  | container =>
      if container.isWritable false then
        String.ofList (Text.dropTrailing container.render.toList)
      else ""

mutual

/-- Tags are dropped, and keys turn into texts. Of two keys with one text the later value stays
in the earlier place. -/
def Value.toNode : Value → Node
  | .null => .null
  | .boolean value => .boolean value
  | .number value => .number value
  | .text value => .text value
  | .sequence items => .sequence (toNodes items)
  | .mapping entries => .mapping (Entries.ofPairs (toPairs entries))
  | .tagged _ content => content.toNode

def toNodes : List Value → List Node
  | [] => []
  | item :: rest => item.toNode :: toNodes rest

def toPairs : List (Value × Value) → List (String × Node)
  | [] => []
  | (key, value) :: rest => (keyText key, value.toNode) :: toPairs rest

end

end Yaml

open Yaml

mutual

def Node.toValue : Node → Value
  | .null => .null
  | .boolean value => .boolean value
  | .number value => .number value
  | .text value => .text value
  | .sequence items => .sequence (itemValues items)
  | .mapping entries => .mapping (entryValues entries)

def itemValues : List Node → List Value
  | [] => []
  | item :: rest => item.toValue :: itemValues rest

def entryValues : List (String × Node) → List (Value × Value)
  | [] => []
  | (key, child) :: rest => (.text key, child.toValue) :: entryValues rest

end

namespace Yaml

/-- The tree of the one document of a text; a text without documents has an absent tree. -/
def singleTree (text : String) : Except Fault Tree :=
  let stream := Stream.ofText text
  match stream.documents, stream.fault? with
  | _, some fault => .error fault
  | [], none => .ok Tree.absent
  | [tree], none => .ok tree
  | _, none => .error .severalDocuments

/-- The one document of a text. Blank text and a text without documents are null. -/
def parse (text : String) : Except Fault Node :=
  if text.toList.all Text.isBlank then .ok .null
  else do
    let value ← Value.ofTree (← singleTree text)
    return value.toNode

/-- A fault in a document of a stream, which is counted from one. -/
structure StreamFault where
  document : Nat
  fault : Fault
  deriving DecidableEq, Repr

def collectDocuments (fault? : Option Fault) : Nat → List Tree → Except StreamFault (List Node)
  | count, [] =>
      match fault? with
      | some fault => .error ⟨count, fault⟩
      | none => .ok []
  | count, tree :: rest =>
      match Value.ofTree tree with
      | .error fault => .error ⟨count, fault⟩
      | .ok value => do
          let others ← collectDocuments fault? (count + 1) rest
          return if value.isNull then others else value.toNode :: others

/-- The documents of a stream that are not null. -/
def parseStream (text : String) : Except StreamFault (List Node) :=
  let stream := Stream.ofText text
  collectDocuments stream.fault? 1 stream.documents

/-- A node written as one document. -/
def render (node : Node) : String := node.toValue.render

end Yaml

end Graft
