/-
This file reads selectors from documents.
-/

import Graft.Form
import Graft.Selector

namespace Graft.Selector

/-- The names of the fields in documents. -/
def fieldNames : List String := (({} : Selector).fields).map Prod.fst

/-- A field that is missing is empty. -/
def schema : Schema Selector := fun form value => do
  let fields ← form.record fieldNames value
  let text (name : String) := Form.field fields name "" form.text
  return {
    apiVersion := ← text "apiVersion"
    group := ← text "group"
    version := ← text "version"
    kind := ← text "kind"
    name := ← text "name"
    namespaceName := ← text "namespace"
    annotationSelector := ← text "annotationSelector"
    labelSelector := ← text "labelSelector" }

end Graft.Selector
