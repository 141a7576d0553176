/-
This file defines collections of resources and their text. A collection is a stream of documents,
or one document that lists the resources and may carry the rules for them.
-/

import Graft.Resource
import Graft.Wording
import Graft.Yaml.Document

namespace Graft

/-- The shape of a collection; a list keeps the entries of its document. -/
inductive Format where
  | stream
  | list (entries : List (String × Node))
  deriving Repr

structure Collection where
  resources : List Resource
  format : Format

namespace Collection

/-- Why a text is no collection. -/
inductive Failure where
  | document (fault : Yaml.StreamFault)
  | itemsShape
  deriving DecidableEq, Repr

def Failure.message (wording : Wording) : Failure → String
  | .document fault =>
      s!"Failed to parse YAML document {fault.document}: {wording.document fault.fault}"
  | .itemsShape => "ResourceList `items` must be a sequence"

/-- The entries of a document that lists resources. -/
def listEntries? : Node → Option (List (String × Node))
  | .mapping entries =>
      if (Entries.find? "kind" entries).bind Node.scalarText? = some "ResourceList" then
        some entries
      else none
  | _ => none

/-- The items of a list; there are none when they are missing or null. -/
def itemsOf (entries : List (String × Node)) : Except Failure (List Node) :=
  match Entries.find? "items" entries with
  | none => .ok []
  | some .null => .ok []
  | some (.sequence items) => .ok items
  | some _ => .error .itemsShape

/-- Only a document on its own can be a list. -/
def ofDocuments (documents : List Node) : Except Failure Collection :=
  match documents.map listEntries? with
  | [some entries] =>
      (itemsOf entries).map fun items => ⟨items.map Resource.mk, .list entries⟩
  | _ => .ok ⟨documents.map Resource.mk, .stream⟩

def parse (text : String) : Except Failure Collection :=
  match Yaml.parseStream text with
  | .ok documents => ofDocuments documents
  | .error fault => .error (.document fault)

/-- The rules that a list carries, unless they are null. -/
def functionConfig? (collection : Collection) : Option Node :=
  match collection.format with
  | .stream => none
  | .list entries => (Entries.find? "functionConfig" entries).filter fun node => !node.isNull

/-- The documents of a stream with a mark between each two, or the document of a list with its
items replaced. -/
def render (collection : Collection) : String :=
  let roots := collection.resources.map Resource.root
  match collection.format with
  | .stream => Text.join "---\n" (roots.map Yaml.render)
  | .list entries => Yaml.render (.mapping (Entries.put "items" (.sequence roots) entries))

end Collection

end Graft
