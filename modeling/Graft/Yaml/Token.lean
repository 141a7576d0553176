/-
This file defines the tokens of a document.
-/

import Graft.Yaml.Tag

namespace Graft.Yaml

/-- The five ways to write a scalar. -/
inductive Style where
  | plain
  | singleQuoted
  | doubleQuoted
  | literal
  | folded
  deriving DecidableEq, Repr

/-- Block collections have no closing character, so their start and end are tokens of their own. -/
inductive Token where
  | version (major minor : Nat)
  | tagHandle (handle : String) (tagPrefix : Tag)
  | documentStart
  | documentEnd
  | streamEnd
  | blockSequence
  | blockMapping
  | blockEnd
  | openBracket
  | closeBracket
  | openBrace
  | closeBrace
  | entry
  | comma
  | key
  | value
  | alias (name : String)
  | anchor (name : String)
  | tag (handle : String) (suffix : Tag)
  | scalar (text : String) (style : Style)
  deriving DecidableEq, Repr

end Graft.Yaml
