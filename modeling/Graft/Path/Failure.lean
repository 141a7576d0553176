/-
This file lists why a path cannot be read from text or applied to a tree.
-/

import Graft.Path
import Graft.Wording

namespace Graft.Path

/-- The first four causes come from the text of a path and the others from the tree it is
applied to. -/
inductive Failure where
  | empty
  | unclosedBracket (path : String) (position : Nat)
  | unexpectedCharacter (path : String) (position : Nat) (found : Char)
  | invalidSegment (path segment reason : String)
  | notFound (key : String)
  | noMatch (segment : String)
  | outOfBounds (index length : Nat)
  | kindMismatch (segment : String) (expected found : Kind)
  | emptyScalar (segment : String) (expected : Kind)
  | nestedDocument (span : String) (fault : Yaml.Fault)
  | depthExceeded (bound : Nat)
  deriving DecidableEq, Repr

def Failure.message (wording : Wording) : Failure → String
  | .empty => "empty field path"
  | .unclosedBracket path position =>
      s!"unclosed '[' at position {position} in '{path}'"
  | .unexpectedCharacter path position found =>
      s!"unexpected '{found}' at position {position} in '{path}'"
  | .invalidSegment path segment reason =>
      s!"invalid segment '{segment}' in '{path}': {reason}"
  | .notFound key => s!"field '{key}' not found"
  | .noMatch segment => s!"no sequence element matches '{segment}'"
  | .outOfBounds index length =>
      s!"index {index} out of range for sequence of length {length}"
  | .kindMismatch segment expected found =>
      s!"expected {expected.name} at '{segment}', found {found.name}"
  | .emptyScalar segment expected =>
      s!"empty scalar at '{segment}' cannot be reinterpreted as {expected.name}"
  | .nestedDocument span fault =>
      s!"nested document at '{span}' is not valid YAML: {wording.document fault}"
  | .depthExceeded bound => s!"nested documents exceed the maximum depth of {bound}"

end Graft.Path
