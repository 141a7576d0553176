/-
This file defines the settings of a user.
-/

import Graft.Rule
import Graft.Toml.Parse
import Graft.Toml.Quote

namespace Graft

/-- The bound on nested documents, the path of sources that name none, and whether a file is
copied before it is overwritten. -/
structure Settings where
  maxDepth : Nat
  defaultPath : String
  createBackup : Bool
  deriving DecidableEq, Repr

namespace Settings

def default : Settings :=
  ⟨RuleOptions.default.bound, RuleOptions.default.defaultPath, false⟩

/-- A setting that is missing has its default, and one of another type is an error. -/
def ofTable? (table : Toml.Table) : Option Settings := do
  let maxDepth ← match Toml.value? "max_nesting_depth" table with
    | none => some default.maxDepth
    | some (.value (.whole value)) => if 0 ≤ value then some value.toNat else none
    | some _ => none
  let defaultPath ← match Toml.value? "default_fieldref" table with
    | none => some default.defaultPath
    | some (.value (.text value)) => some value
    | some _ => none
  let createBackup ← match Toml.value? "create_backup" table with
    | none => some default.createBackup
    | some (.value (.boolean value)) => some value
    | some _ => none
  return ⟨maxDepth, defaultPath, createBackup⟩

/-- Settings that cannot be read are the default ones. -/
def ofText (text : String) : Settings := ((Toml.parse? text).bind ofTable?).getD default

/-- The settings in the content of a file, or the default ones without a file. -/
def ofContent (content? : Option ByteArray) : Settings :=
  ((content?.bind String.fromUTF8?).map ofText).getD default

def render (settings : Settings) : String :=
  s!"max_nesting_depth = {settings.maxDepth}\n" ++
    s!"default_fieldref = {Toml.quote settings.defaultPath}\n" ++
    s!"create_backup = {settings.createBackup}\n"

def ruleOptions (settings : Settings) : RuleOptions := ⟨settings.maxDepth, settings.defaultPath⟩

end Settings

end Graft
