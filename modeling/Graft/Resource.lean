/-
This file defines resources, which are documents with metadata.
-/

import Graft.Node
import Graft.Text

namespace Graft

/-- A resource is one document of a collection. -/
structure Resource where
  root : Node

namespace Resource

/-- The text of a field; a field that is empty or no scalar counts as missing. -/
def field? (resource : Resource) (keys : List String) : Option String :=
  ((resource.root.entryAt? keys).bind Node.scalarText?).filter fun value => !value.isEmpty

def apiVersion? (resource : Resource) : Option String := resource.field? ["apiVersion"]

/-- The parts of the `apiVersion` before and after its first slash. Without a slash the whole is
the version, and the group is empty. -/
def groupAndVersion (resource : Resource) : String × String :=
  match resource.apiVersion? with
  | none => ("", "")
  | some apiVersion =>
      match Text.cut? '/' apiVersion.toList with
      | some (group, version) => (String.ofList group, String.ofList version)
      | none => ("", apiVersion)

def group (resource : Resource) : String := resource.groupAndVersion.1

def version (resource : Resource) : String := resource.groupAndVersion.2

def kind? (resource : Resource) : Option String := resource.field? ["kind"]

def name? (resource : Resource) : Option String := resource.field? ["metadata", "name"]

def namespace? (resource : Resource) : Option String := resource.field? ["metadata", "namespace"]

/-- The labels are a mapping or a text of pairs. -/
def labels? (resource : Resource) : Option Node := resource.root.entryAt? ["metadata", "labels"]

def annotations? (resource : Resource) : Option Node :=
  resource.root.entryAt? ["metadata", "annotations"]

/-- The text that messages name a resource by. -/
def text (resource : Resource) : String :=
  let name := resource.name?.getD "<no name>"
  let place := match resource.namespace? with
    | some space => space ++ "/" ++ name
    | none => name
  resource.apiVersion?.getD "" ++ "/" ++ resource.kind?.getD "<no kind>" ++ " " ++ place

end Resource

end Graft
