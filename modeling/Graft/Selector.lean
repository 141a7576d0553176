/-
This file defines selectors, which pick resources by their metadata.
-/

import Graft.Label.Parse
import Graft.Resource

namespace Graft

/-- Each field that is not blank is one condition, and all conditions must hold. -/
structure Selector where
  apiVersion : String := ""
  group : String := ""
  version : String := ""
  kind : String := ""
  name : String := ""
  namespaceName : String := ""
  annotationSelector : String := ""
  labelSelector : String := ""
  deriving DecidableEq, Repr

namespace Selector

def ofKindName (kind name : String) : Selector := { kind, name }

/-- The fields with their names, in the order in which they are written. -/
def fields (selector : Selector) : List (String × String) :=
  [("apiVersion", selector.apiVersion), ("group", selector.group),
    ("version", selector.version), ("kind", selector.kind), ("name", selector.name),
    ("namespace", selector.namespaceName),
    ("annotationSelector", selector.annotationSelector),
    ("labelSelector", selector.labelSelector)]

def givenFields (selector : Selector) : List (String × String) :=
  selector.fields.filter fun field => !field.2.isEmpty

def text (selector : Selector) : String :=
  "\x7b" ++ Text.join ", " (selector.givenFields.map fun field => field.1 ++ ": " ++ field.2) ++
    "\x7d"

/-- Why a selector cannot be used or does not pick exactly one resource. -/
inductive Failure where
  | invalidCondition (condition : String) (fault : Label.ConditionFault)
  | invalidLabelSet (labels : String) (fault : Label.LabelSetFault)
  | notFound (selector : String)
  | ambiguous (selector : String) (count : Nat)
  deriving DecidableEq, Repr

def Failure.message : Failure → String
  | .invalidCondition condition fault =>
      s!"invalid label selector '{condition}': {fault.message}"
  | .invalidLabelSet labels fault => s!"invalid label set '{labels}': {fault.message}"
  | .notFound selector => s!"failed to find one resource matching {selector}"
  | .ambiguous selector count =>
      s!"found {count} resources matching {selector}, expected exactly one"

end Selector

/-- A selector that is ready to be used. A part without a condition is `none`. -/
structure Matcher where
  apiVersion : Option String
  group : Option String
  version : Option String
  kind : Option String
  name : Option String
  namespaceName : Option String
  annotations : Option Label.Condition
  labels : Option Label.Condition
  description : String
  deriving DecidableEq, Repr

open Selector (Failure)

namespace Selector

/-- A blank field is no condition. -/
def wanted? (value : String) : Option String :=
  (some (Text.trimmed value)).filter fun trimmed => !trimmed.isEmpty

def condition? (text : String) : Except Failure (Option Label.Condition) :=
  match Label.parseCondition text with
  | .ok condition => .ok ((some condition).filter fun condition => !condition.isEmpty)
  | .error fault => .error (.invalidCondition text fault)

/-- The condition on the annotations is read before the one on the labels. -/
def compile (selector : Selector) : Except Failure Matcher := do
  let annotations ← condition? selector.annotationSelector
  let labels ← condition? selector.labelSelector
  return {
    apiVersion := wanted? selector.apiVersion
    group := wanted? selector.group
    version := wanted? selector.version
    kind := wanted? selector.kind
    name := wanted? selector.name
    namespaceName := wanted? selector.namespaceName
    annotations
    labels
    description := selector.text }

end Selector

namespace Matcher

/-- The labels of a mapping are its scalars, and those of a text are its pairs. -/
def labelSet : Option Node → Except Failure Label.LabelSet
  | none => .ok []
  | some (.mapping entries) =>
      .ok (entries.filterMap fun entry => entry.2.scalarText?.map fun value => (entry.1, value))
  | some (.sequence _) => .error (.invalidLabelSet "<sequence>" .sequence)
  | some node =>
      let written := node.scalarText?.getD ""
      match Label.parseLabelSet written with
      | .ok labels => .ok labels
      | .error fault => .error (.invalidLabelSet written fault)

/-- Whether a wanted text is the actual one. -/
def agrees (wanted actual : Option String) : Bool :=
  wanted.all fun value => actual == some value

/-- The fields with a single text. -/
def scalarsAgree (selected : Matcher) (resource : Resource) : Bool :=
  agrees selected.apiVersion resource.apiVersion? &&
    agrees selected.group (some resource.group) &&
    agrees selected.version (some resource.version) &&
    agrees selected.kind resource.kind? &&
    agrees selected.name resource.name? &&
    agrees selected.namespaceName resource.namespace?

/-- Labels are read only where there is a condition on them. -/
def conditionHolds (condition : Option Label.Condition) (node : Option Node) :
    Except Failure Bool :=
  match condition with
  | none => .ok true
  | some condition => (labelSet node).map condition.holds

/-- Labels are looked at only if all single texts agree, and annotations only if the labels do. -/
def accepts (selected : Matcher) (resource : Resource) : Except Failure Bool :=
  if !selected.scalarsAgree resource then .ok false
  else do
    if !(← conditionHolds selected.labels resource.labels?) then return false
    conditionHolds selected.annotations resource.annotations?

/-- For each resource, whether it is accepted. The first resource that cannot be checked fails
the whole. -/
def marks (selected : Matcher) : List Resource → Except Failure (List Bool)
  | [] => .ok []
  | resource :: rest => do
      let accepted ← selected.accepts resource
      return accepted :: (← selected.marks rest)

/-- The positions of the marks that are set, counted from a start. -/
def positionsFrom : Nat → List Bool → List Nat
  | _, [] => []
  | position, accepted :: rest =>
      if accepted then position :: positionsFrom (position + 1) rest
      else positionsFrom (position + 1) rest

def positions (selected : Matcher) (resources : List Resource) : Except Failure (List Nat) :=
  (selected.marks resources).map (positionsFrom 0)

/-- The accepted resources in order. -/
def select (selected : Matcher) (resources : List Resource) : Except Failure (List Resource) :=
  (selected.positions resources).map (List.filterMap fun position => resources[position]?)

/-- The position of the one accepted resource. -/
def findOne (selected : Matcher) (resources : List Resource) : Except Failure Nat := do
  match ← selected.positions resources with
  | [position] => return position
  | [] => throw (.notFound selected.description)
  | found => throw (.ambiguous selected.description found.length)

end Matcher

end Graft
