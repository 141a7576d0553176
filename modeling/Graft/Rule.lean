/-
This file defines rules, which copy a value from a source to its targets.
-/

import Graft.Path
import Graft.Pattern
import Graft.Selector

namespace Graft

/-- A place in the one resource that a matcher accepts. -/
structure SourceField where
  selected : Matcher
  path : Path

/-- A value is a literal, the node at a place, or the text that a template makes of several
places. -/
inductive Source where
  | literal (value : String)
  | field (field : SourceField)
  | combined (fields : List SourceField) (template : String)

/-- A place in a target. With a pattern only the parts of its text that match are written. -/
structure TargetField where
  path : Path
  scope? : Option Pattern

/-- The places in all resources that a matcher accepts. -/
structure Target where
  selected : Matcher
  fields : List TargetField

structure Rule where
  source : Source
  target : Target

/-- What the rules of a set have in common: the bound on nested documents, and the path of a
source that names none. -/
structure RuleOptions where
  bound : Nat
  defaultPath : String
  deriving DecidableEq, Repr

def RuleOptions.default : RuleOptions := ⟨Path.defaultDepth, "metadata.name"⟩

end Graft
