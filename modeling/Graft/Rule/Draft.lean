/-
This file defines rules as they are written. Every part of a draft may be missing.
-/

import Graft.Selector.Schema

namespace Graft

/-- A place in a resource that a selector picks. -/
structure FieldDraft where
  selector? : Option Selector
  path? : Option String
  deriving DecidableEq, Repr

/-- Several places that a template combines. -/
structure CombinedDraft where
  fields : List FieldDraft
  template : String
  deriving DecidableEq, Repr

/-- A source is a literal, a place or a combination of places. -/
structure SourceDraft where
  literal? : Option String
  field : FieldDraft
  combined? : Option CombinedDraft
  deriving DecidableEq, Repr

/-- The places in the resources that a selector picks. -/
structure TargetDraft where
  selector? : Option Selector
  paths : List String
  deriving DecidableEq, Repr

structure RuleDraft where
  source? : Option SourceDraft
  target? : Option TargetDraft
  deriving DecidableEq, Repr

namespace FieldDraft

/-- A place is given by the fields `objref` and `fieldref`. -/
def read {A : Type} (form : Form A) (fields : List (String × A)) :
    Yaml.Building FieldDraft := do
  return {
    selector? := ← Form.field fields "objref" none (form.optional (Selector.schema form))
    path? := ← Form.field fields "fieldref" none (form.optional form.text) }

def schema : Schema FieldDraft := fun form value => do
  read form (← form.record ["objref", "fieldref"] value)

end FieldDraft

def CombinedDraft.schema : Schema CombinedDraft := fun form value => do
  let fields ← form.record ["refs", "template"] value
  return {
    fields := ← Form.field fields "refs" [] (form.list (FieldDraft.schema form))
    template := ← Form.field fields "template" "" form.text }

def SourceDraft.schema : Schema SourceDraft := fun form value => do
  let fields ← form.record ["value", "objref", "fieldref", "multiref"] value
  return {
    literal? := ← Form.field fields "value" none (form.optional form.text)
    field := ← FieldDraft.read form fields
    combined? := ← Form.field fields "multiref" none
      (form.optional (CombinedDraft.schema form)) }

def TargetDraft.schema : Schema TargetDraft := fun form value => do
  let fields ← form.record ["objref", "fieldrefs"] value
  return {
    selector? := ← Form.field fields "objref" none (form.optional (Selector.schema form))
    paths := ← Form.field fields "fieldrefs" [] (form.list form.text) }

def RuleDraft.schema : Schema RuleDraft := fun form value => do
  let fields ← form.record ["source", "target"] value
  return {
    source? := ← Form.field fields "source" none (form.optional (SourceDraft.schema form))
    target? := ← Form.field fields "target" none (form.optional (TargetDraft.schema form)) }

/-- A set of rules is the list under `replacements`. -/
def RuleDraft.listSchema : Schema (List RuleDraft) := fun form value => do
  let fields ← form.record ["replacements"] value
  Form.field fields "replacements" [] (form.list (RuleDraft.schema form))

end Graft
