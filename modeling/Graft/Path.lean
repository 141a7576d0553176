/-
This file defines field paths, which address a place in a tree.
-/

import Graft.Node
import Graft.Text

namespace Graft

/-- A segment selects a child: a key of a mapping, a position of a sequence, or the first item of
a sequence whose field has a given text. A predicate with an empty key compares the item itself,
and a dotted key follows mappings. -/
inductive Segment where
  | key (name : String)
  | index (position : Nat)
  | predicate (key value : String)
  deriving DecidableEq, Repr

/-- The segments within one document. -/
abbrev Span := List Segment

/-- Each span after the first addresses the document in the text that the span before leads to.
A path keeps the text it was read from. -/
structure Path where
  spans : List Span
  source : String
  deriving DecidableEq, Repr

namespace Segment

def text : Segment → String
  | .key name => name
  | .index position => "[" ++ toString position ++ "]"
  | .predicate field value => "[" ++ field ++ "=" ++ value ++ "]"

/-- The position in a sequence that a segment stands for; a key that is a number also does. -/
def position? : Segment → Option Nat
  | .key name => Text.signedPosition? name.toList
  | .index position => some position
  | .predicate .. => none

/-- The kind of node that a segment applies to. -/
def container : Segment → Kind
  | .key _ => .mapping
  | .index _ => .sequence
  | .predicate .. => .sequence

end Segment

/-- The text of a span joins the texts of its segments with points. -/
def Span.text (span : Span) : String :=
  Text.join "." (span.map Segment.text)

namespace Path

/-- The kind of node that a segment has to lead to: the container that the next segment needs, a
scalar in front of a nested document, and the kind of the written value at the very end. -/
def requiredKind? (spans : List Span) (span segment : Nat) (value : Kind) : Option Kind := do
  let segments ← spans[span]?
  if segments.length ≤ segment then none
  else match segments[segment + 1]? with
    | some next => some next.container
    | none => if span + 1 < spans.length then some .scalar else some value

/-- The bound on nested documents when no other is set. -/
def defaultDepth : Nat := 16

end Path

end Graft
