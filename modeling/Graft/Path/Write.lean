/-
This file writes values at paths. A write gives the tree that it leaves also when it fails.
-/

import Graft.Path.Read

namespace Graft

open Graft.Path (Failure)

/-- The tree after a write, and the cause if the write failed. -/
structure Edit where
  tree : Node
  failure? : Option Failure

namespace Edit

def done (tree : Node) : Edit := ⟨tree, none⟩

def failed (tree : Node) (failure : Failure) : Edit := ⟨tree, some failure⟩

/-- A result without partial changes leaves the old tree when it fails. -/
def ofExcept (tree : Node) : Except Failure Node → Edit
  | .ok changed => done changed
  | .error failure => failed tree failure

end Edit

/-- Whether a segment can be applied to a node of a kind. A sequence takes a key that is a
position. -/
def Segment.appliesTo (segment : Segment) (kind : Kind) : Bool :=
  match segment with
  | .key _ => kind == .mapping || (kind == .sequence && segment.position?.isSome)
  | _ => kind == .sequence

namespace Node

/-- A mapping with the value under a chain of keys. -/
def nestUnder (value : Node) : List String → Node
  | [] => value
  | key :: rest => .mapping [(key, nestUnder value rest)]

/-- The item that a predicate without a match adds. Only a mapping can be made up. -/
def itemFor? (key value : String) (required : Kind) : Option Node :=
  if key.isEmpty || required != .mapping then none
  else some (nestUnder (.text value) (Text.splitOn '.' key))

/-- A child that the walk goes on through: null becomes an empty container, and any other child
must suit the next segment. -/
def enter (child : Node) (segment next : Segment) : Except Failure Node :=
  if child.isNull then .ok next.container.empty
  else if next.appliesTo child.kind then .ok child
  else if child.isEmptyText then .error (.emptyScalar segment.text next.container)
  else .error (child.mismatch segment next.container)

/-- The step to the child of a segment that another segment follows. A missing key and a
predicate without a match give a new child. -/
def advance (node : Node) (segment next : Segment) : Except Failure (Step × Node) :=
  match node.locate segment with
  | .ok (step, child) => do return (step, ← child.enter segment next)
  | .error failure =>
      match node, segment with
      | .mapping _, .key name => .ok (.key name, next.container.empty)
      | .sequence items, .predicate key value =>
          match itemFor? key value next.container with
          | some item => .ok (.position items.length, item)
          | none => .error failure
      | _, _ => .error failure

/-- An entry of a mapping is only replaced by a value of its kind, unless it is null. -/
def checkReplaceable (existing : Node) (segment : Segment) (kind : Kind) :
    Except Failure Unit :=
  if existing.isNull || existing.kind == kind then .ok ()
  else if existing.isEmptyText then .error (.emptyScalar segment.text kind)
  else .error (existing.mismatch segment kind)

/-- The value is stored under the last segment. A mapping gets a new key, and a sequence only
has its items replaced. -/
def assign (node : Node) (segment : Segment) (value : Node) : Except Failure Node :=
  match node.locate segment with
  | .ok (step, existing) => do
      if node.isMapping then existing.checkReplaceable segment value.kind
      return node.place step value
  | .error failure =>
      match node, segment with
      | .mapping _, .key name => .ok (node.place (.key name) value)
      | _, _ => .error failure

/-- The value is written at the end of a span. What was created on the way stays, also when a
later segment fails. -/
def writeSegments (node : Node) (value : Node) : Span → Edit
  | [] => .failed node .empty
  | [segment] => .ofExcept node (node.assign segment value)
  | segment :: next :: rest =>
      match node.advance segment next with
      | .error failure => .failed node failure
      | .ok (step, child) =>
          let edit := child.writeSegments value (next :: rest)
          ⟨node.place step edit.tree, edit.failure?⟩

/-- A null root becomes the container that the first segment needs. -/
def writeSpan (node : Node) (span : Span) (value : Node) : Edit :=
  match span with
  | [] => .failed node .empty
  | segment :: _ =>
      let root := if node.isNull then segment.container.empty else node
      root.writeSegments value span

/-- A nested document is read, changed and written back as text. Nothing changes unless all of
that succeeds. -/
def writeSpans (bound depth : Nat) (node value : Node) : List Span → Edit
  | [] => .failed node .empty
  | [span] => node.writeSpan span value
  | span :: rest =>
      if bound ≤ depth then .failed node (.depthExceeded bound)
      else .ofExcept node do
        let (steps, holder) ← node.trace span
        let document ← holder.nestedDocument span
        let edit := document.writeSpans bound (depth + 1) value rest
        match edit.failure? with
        | some failure => throw failure
        | none => return node.placeAt steps (.text (Yaml.render edit.tree))

/-- The value is written at a path that enters at most `bound` nested documents. -/
def write (node : Node) (path : Path) (value : Node) (bound : Nat) : Edit :=
  node.writeSpans bound 0 value path.spans

end Node

end Graft
