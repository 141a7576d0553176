/-
This file runs rules over resources. A run gives the resources that it leaves also when it fails.
-/

import Graft.Path.Write
import Graft.Rule
import Graft.Rule.Failure

namespace Graft

open Rule (Cause Failure)

/-- The one resource that a source field is read from and the node there. -/
def SourceField.read (field : SourceField) (bound : Nat) (resources : List Resource) :
    Except Cause Node :=
  match field.selected.findOne resources with
  | .error failure => .error (.selection failure)
  | .ok position =>
      let resource := resources[position]?.getD ⟨.null⟩
      (resource.root.read field.path bound).mapError
        (.field field.path.source resource.text)

namespace Source

/-- The texts of fields, counted from an index. -/
def readTexts (bound : Nat) (resources : List Resource) :
    Nat → List SourceField → Except Cause (List String)
  | _, [] => .ok []
  | index, place :: rest => do
      let node ← place.read bound resources
      match node.scalarText? with
      | none => throw (.fieldNotScalar index place.path.source)
      | some value => return value :: (← readTexts bound resources (index + 1) rest)

/-- The value of a source among the resources. -/
def value (renderer : Template.Renderer) (bound : Nat) (resources : List Resource) :
    Source → Except Cause Node
  | .literal text => .ok (.text text)
  | .field place => place.read bound resources
  | .combined places template => do
      let texts ← readTexts bound resources 0 places
      match renderer template texts with
      | .ok rendered => return .text rendered
      | .error failure => throw (.template failure)

end Source

/-- A resource after some fields were written, and the cause if one of them failed. -/
structure Change where
  root : Node
  cause? : Option Cause

namespace TargetField

/-- The value that a field gets. With a scope it is the text that the field has now, where each
match is replaced by the text of the value. -/
def newValue (field : TargetField) (bound : Nat) (value : Node) (label : String) (root : Node) :
    Except Cause Node :=
  match field.scope? with
  | none => .ok value
  | some scope =>
      match root.read field.path bound with
      | .error failure => .error (.field field.path.source label failure)
      | .ok current =>
          match current.scalarText?, value.scalarText? with
          | some text, some replacement =>
              if scope.isMatch text then .ok (.text (scope.replaceAll text replacement))
              else .error (.scopeNoMatch scope.source text field.path.source label)
          | _, _ => .error (.scopeNotScalar field.path.source label)

def write (field : TargetField) (bound : Nat) (value : Node) (label : String) (root : Node) :
    Change :=
  match field.newValue bound value label root with
  | .error cause => ⟨root, some cause⟩
  | .ok newValue =>
      let edit := root.write field.path newValue bound
      ⟨edit.tree, edit.failure?.map (.field field.path.source label)⟩

end TargetField

namespace Target

/-- The fields are written in order up to the first that fails. -/
def writeFields (bound : Nat) (value : Node) (label : String) :
    List TargetField → Node → Change
  | [], root => ⟨root, none⟩
  | field :: rest, root =>
      let change := field.write bound value label root
      match change.cause? with
      | some _ => change
      | none => writeFields bound value label rest change.root

/-- The resources whose marks are set are written in order up to the first that fails. -/
def writeMarked (fields : List TargetField) (bound : Nat) (value : Node) :
    List Bool → List Resource → List Resource × Option Cause
  | true :: marks, resource :: rest =>
      let change := writeFields bound value resource.text fields resource.root
      match change.cause? with
      | some cause => (⟨change.root⟩ :: rest, some cause)
      | none =>
          let (others, cause?) := writeMarked fields bound value marks rest
          (⟨change.root⟩ :: others, cause?)
  | false :: marks, resource :: rest =>
      let (others, cause?) := writeMarked fields bound value marks rest
      (resource :: others, cause?)
  | _, resources => (resources, none)

/-- The accepted resources are marked before any of them is written. -/
def write (target : Target) (bound : Nat) (value : Node) (resources : List Resource) :
    List Resource × Option Cause :=
  match target.selected.marks resources with
  | .error failure => (resources, some (.selection failure))
  | .ok marks => writeMarked target.fields bound value marks resources

end Target

/-- The resources after a run, and the failure if a rule failed. -/
structure Run where
  resources : List Resource
  failure? : Option Failure

namespace Rule

/-- The source is read before anything is written. -/
def apply (rule : Rule) (renderer : Template.Renderer) (bound : Nat)
    (resources : List Resource) : List Resource × Option Cause :=
  match rule.source.value renderer bound resources with
  | .error cause => (resources, some cause)
  | .ok value => rule.target.write bound value resources

/-- The rules of a set run in order up to the first that fails. They are counted from a number. -/
def runFrom (renderer : Template.Renderer) (bound : Nat) :
    Nat → List Rule → List Resource → Run
  | _, [], resources => ⟨resources, none⟩
  | number, rule :: rest, resources =>
      match rule.apply renderer bound resources with
      | (left, some cause) => ⟨left, some ⟨number, cause⟩⟩
      | (left, none) => runFrom renderer bound (number + 1) rest left

def runAll (renderer : Template.Renderer) (bound : Nat) (rules : List Rule)
    (resources : List Resource) : Run :=
  runFrom renderer bound 0 rules resources

end Rule

end Graft
