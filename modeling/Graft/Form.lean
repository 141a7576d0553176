/-
This file reads records from documents. A document that is still a tree gives any scalar as text,
while a node gives only texts.
-/

import Graft.Yaml.Document

namespace Graft

open Yaml

/-- A form tells what the values of one kind of document give where an option, a text, a list or
a record is asked for. -/
structure Form (A : Type) where
  follow : A → Building A
  isGiven : A → Building Bool
  text : A → Building String
  items : A → Building (List A)
  fields : A → Building (List (String × A))

namespace Form

variable {A : Type}

/-- An optional value is not given when it is null. An alias is followed once. -/
def optional {B : Type} (form : Form A) (read : A → Building B) (value : A) :
    Building (Option B) := do
  let value ← form.follow value
  if ← form.isGiven value then return some (← read value) else return none

def list {B : Type} (form : Form A) (read : A → Building B) (value : A) : Building (List B) := do
  (← form.items value).mapM read

/-- The fields of a record that are known by name. None of them may come twice, and the others
are not looked at. -/
def record (form : Form A) (names : List String) (value : A) : Building (List (String × A)) := do
  let known := (← form.fields value).filter fun field => names.contains field.1
  if known.length == (known.map Prod.fst).eraseDups.length then return known
  else throw .duplicateField

/-- The value of a field, or a default where the record has no such field. -/
def field {B : Type} (fields : List (String × A)) (name : String) (default : B)
    (read : A → Building B) : Building B :=
  match Entries.find? name fields with
  | some value => read value
  | none => return default

/-- A plain scalar without text stands for an empty list and an empty record. -/
def isEmptyPlain (written : String) (style : Style) : Bool :=
  written.isEmpty && style == .plain

/-- The source text of a scalar, whatever its tag and style. -/
def treeText (anchors : Anchors) (tree : Tree) : Building String := do
  match ← anchors.follow tree with
  | .scalar _ written _ => return written
  | _ => throw .unexpectedShape

/-- A quoted scalar is given. The null tag asks for a word of null, and any other tag makes a value
of a plain scalar. -/
def treeIsGiven : Tree → Building Bool
  | .scalar properties written .plain =>
      match properties.tag with
      | some tag =>
          if tag != Tag.null then return true
          else if Value.isNullWord written then return false
          else throw .badTaggedScalar
      | none => return !(written.isEmpty || Value.isNullWord written)
  | _ => return true

def treeItems (anchors : Anchors) (tree : Tree) : Building (List Tree) := do
  match ← anchors.follow tree with
  | .sequence _ items => return items
  | .scalar _ written style =>
      if isEmptyPlain written style then return [] else throw .unexpectedShape
  | _ => throw .unexpectedShape

def treeFields (anchors : Anchors) (tree : Tree) : Building (List (String × Tree)) := do
  match ← anchors.follow tree with
  | .mapping _ entries =>
      entries.mapM fun entry => return (← treeText anchors entry.1, entry.2)
  | .scalar _ written style =>
      if isEmptyPlain written style then return [] else throw .unexpectedShape
  | _ => throw .unexpectedShape

def tree (anchors : Anchors) : Form Tree :=
  ⟨anchors.follow, treeIsGiven, treeText anchors, treeItems anchors, treeFields anchors⟩

/-- Null stands for an empty list and an empty record. -/
def node : Form Node where
  follow value := return value
  isGiven value := return !value.isNull
  text
    | .text value => return value
    | _ => throw .unexpectedShape
  items
    | .sequence items => return items
    | .null => return []
    | _ => throw .unexpectedShape
  fields
    | .mapping entries => return entries
    | .null => return []
    | _ => throw .unexpectedShape

end Form

/-- A schema reads a value of any form. -/
abbrev Schema (B : Type) := {A : Type} → Form A → A → Building B

namespace Schema

variable {B : Type}

def ofText (schema : Schema B) (text : String) : Except Fault B := do
  let tree ← singleTree text
  (schema (Form.tree (Anchors.ofTree tree)) tree).run' 0

def ofNode (schema : Schema B) (node : Node) : Except Fault B :=
  (schema Form.node node).run' 0

end Schema

end Graft
