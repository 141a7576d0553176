/-
This file follows paths through trees without changing them.
-/

import Graft.Node.Step
import Graft.Path.Failure
import Graft.Yaml.Document

namespace Graft

open Graft.Path (Failure)

namespace Node

/-- Whether an item satisfies a predicate. Fields are compared by their text. -/
def satisfies (item : Node) (key value : String) : Bool :=
  let field := if key.isEmpty then some item else item.entryAt? (Text.splitOn '.' key)
  field.bind Node.scalarText? == some value

/-- The first item that satisfies a predicate, with its position. -/
def firstMatch? (key value : String) : List Node → Option (Nat × Node)
  | [] => none
  | item :: rest =>
      if item.satisfies key value then some (0, item)
      else (firstMatch? key value rest).map fun (index, item) => (index + 1, item)

def mismatch (node : Node) (segment : Segment) (expected : Kind) : Failure :=
  .kindMismatch segment.text expected node.kind

/-- The concrete step that a segment stands for at a node, with the child it leads to. -/
def locate (node : Node) (segment : Segment) : Except Failure (Step × Node) :=
  match node, segment with
  | .mapping entries, .key name =>
      match Entries.find? name entries with
      | some child => .ok (.key name, child)
      | none => .error (.notFound name)
  | .sequence items, .predicate key value =>
      match firstMatch? key value items with
      | some (index, item) => .ok (.position index, item)
      | none => .error (.noMatch segment.text)
  | .sequence items, segment =>
      match segment.position? with
      | some index =>
          match items[index]? with
          | some item => .ok (.position index, item)
          | none => .error (.outOfBounds index items.length)
      | none => .error (node.mismatch segment .mapping)
  | node, .key _ => .error (node.mismatch segment .mapping)
  | node, _ => .error (node.mismatch segment .sequence)

/-- The steps that a span stands for, with the node they lead to. -/
def trace (node : Node) : Span → Except Failure (List Step × Node)
  | [] => .ok ([], node)
  | segment :: rest => do
      let (step, child) ← node.locate segment
      let (steps, target) ← child.trace rest
      return (step :: steps, target)

/-- The node that a span leads to. -/
def resolve (node : Node) (span : Span) : Except Failure Node :=
  (node.trace span).map Prod.snd

/-- The document in the text of a scalar at the end of a span. -/
def nestedDocument (node : Node) (span : Span) : Except Failure Node :=
  match node.scalarText? with
  | none => .error (.kindMismatch span.text .scalar node.kind)
  | some written =>
      match Yaml.parse written with
      | .ok document => .ok document
      | .error fault => .error (.nestedDocument span.text fault)

/-- The node that the spans lead to, when `depth` nested documents were entered before. -/
def readSpans (bound depth : Nat) (node : Node) : List Span → Except Failure Node
  | [] => .error .empty
  | [span] => node.resolve span
  | span :: rest => do
      let target ← node.resolve span
      if bound ≤ depth then throw (.depthExceeded bound)
      let document ← target.nestedDocument span
      document.readSpans bound (depth + 1) rest

/-- The node at a path. A path enters at most `bound` nested documents. -/
def read (node : Node) (path : Path) (bound : Nat) : Except Failure Node :=
  node.readSpans bound 0 path.spans

end Node

end Graft
