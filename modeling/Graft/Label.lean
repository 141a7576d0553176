/-
This file defines conditions on labels and the sets of labels that they are checked against.
-/

import Graft.Entries
import Graft.Text

namespace Graft.Label

/-- A set of labels keeps the order in which they were written. -/
abbrev LabelSet := List (String × String)

/-- A requirement is a condition on one label. -/
inductive Requirement where
  | present (key : String)
  | absent (key : String)
  | equals (key value : String)
  | differs (key value : String)
  | among (key : String) (values : List String)
  | notAmong (key : String) (values : List String)
  deriving DecidableEq, Repr

namespace Requirement

def key : Requirement → String
  | .present key => key
  | .absent key => key
  | .equals key _ => key
  | .differs key _ => key
  | .among key _ => key
  | .notAmong key _ => key

/-- A missing label satisfies the negative conditions. -/
def holds (labels : LabelSet) (requirement : Requirement) : Bool :=
  let actual := Entries.find? requirement.key labels
  match requirement with
  | .present _ => actual.isSome
  | .absent _ => actual.isNone
  | .equals _ value => actual == some value
  | .differs _ value => actual != some value
  | .among _ values => actual.any values.contains
  | .notAmong _ values => !actual.any values.contains

def text : Requirement → String
  | .present key => key
  | .absent key => "!" ++ key
  | .equals key value => key ++ "=" ++ value
  | .differs key value => key ++ "!=" ++ value
  | .among key values => key ++ " in (" ++ Text.join "," values ++ ")"
  | .notAmong key values => key ++ " notin (" ++ Text.join "," values ++ ")"

end Requirement

/-- All requirements of a condition must hold. The condition without requirements always does. -/
structure Condition where
  requirements : List Requirement
  deriving DecidableEq, Repr

namespace Condition

def isEmpty (condition : Condition) : Bool := condition.requirements.isEmpty

def holds (condition : Condition) (labels : LabelSet) : Bool :=
  condition.requirements.all (Requirement.holds labels)

def text (condition : Condition) : String :=
  Text.join "," (condition.requirements.map Requirement.text)

end Condition

end Graft.Label
