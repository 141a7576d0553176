/-
This file loads collections and rules from files.
-/

import Graft.Collection
import Graft.Directory
import Graft.Gzip
import Graft.Rule.Draft

namespace Graft.File

/-- Why a file gives no collection. -/
inductive LoadFailure where
  | unreadable (name : String) (fault : SystemFault)
  | unopened (fault : SystemFault)
  | corrupt (fault : SystemFault)
  | content (name : String) (failure : Collection.Failure)
  deriving DecidableEq, Repr

namespace LoadFailure

def headline : LoadFailure → String
  | .unreadable name _ => "Failed to read file: " ++ name
  | .unopened _ => "Failed to open gzipped file"
  | .corrupt _ => "Failed to decompress gzipped file - file may be corrupted"
  | .content name _ => "Failed to load " ++ name

def cause (wording : Wording) : LoadFailure → String
  | .unreadable _ fault => wording.system fault
  | .unopened fault => wording.system fault
  | .corrupt fault => wording.system fault
  | .content _ failure => failure.message wording

def message (wording : Wording) (failure : LoadFailure) : String :=
  failure.headline ++ ": " ++ failure.cause wording

end LoadFailure

/-- The text in a content. -/
def textOf (content : ByteArray) : Except SystemFault String :=
  match String.fromUTF8? content with
  | some text => .ok text
  | none => .error .notText

/-- The text in a compressed content. -/
def expand (content : ByteArray) : Except SystemFault String :=
  match Gzip.decompress? content with
  | some content => textOf content
  | none => .error .notCompressed

/-- The text of a file, by its name compressed or not. A folder can be opened but holds no
compressed text. -/
def readText (directory : Directory) (name : String) : Except LoadFailure String :=
  if readsCompressed name then
    match directory.item name with
    | .error fault => .error (.unopened fault)
    | .ok .folder => .error (.corrupt .notAFile)
    | .ok (.file content) => (expand content).mapError .corrupt
  else ((directory.read name).bind textOf).mapError (.unreadable name)

def load (directory : Directory) (name : String) : Except LoadFailure Collection := do
  (Collection.parse (← readText directory name)).mapError (.content name)

/-- Why a file gives no rules. -/
inductive RulesFailure where
  | unreadable (name : String) (fault : SystemFault)
  | content (name : String) (fault : Yaml.Fault)
  deriving DecidableEq, Repr

/-- The words for drafts that are not rules. -/
def draftMessage (wording : Wording) (fault : Yaml.Fault) : String :=
  "invalid replacement config: " ++ wording.document fault

namespace RulesFailure

def headline : RulesFailure → String
  | .unreadable name _ => "Failed to read rules file: " ++ name
  | .content name _ => "Failed to parse rules file: " ++ name

def cause (wording : Wording) : RulesFailure → String
  | .unreadable _ fault => wording.system fault
  | .content _ fault => draftMessage wording fault

def message (wording : Wording) (failure : RulesFailure) : String :=
  failure.headline ++ ": " ++ failure.cause wording

end RulesFailure

def loadRules (directory : Directory) (name : String) : Except RulesFailure (List RuleDraft) := do
  let text ← ((directory.read name).bind textOf).mapError (.unreadable name)
  (Schema.ofText RuleDraft.listSchema text).mapError (.content name)

end Graft.File
