/-
This file lists why a rule cannot be built or run.
-/

import Graft.Path.Failure
import Graft.Selector
import Graft.Template

namespace Graft.Rule

/-- Why one rule fails. The causes up to the invalid scope come from its draft and the others from
the resources. -/
inductive Cause where
  | missingSource
  | missingTarget
  | missingTargetSelector
  | sourceVariants (count : Nat)
  | pathWithoutSelector
  | fieldWithoutSelector (index : Nat)
  | invalidPath (path : String) (failure : Path.Failure)
  | invalidSelector (failure : Selector.Failure)
  | invalidScope (pattern : String) (fault : PatternFault)
  | selection (failure : Selector.Failure)
  | field (path resource : String) (failure : Path.Failure)
  | scopeNoMatch (pattern value path resource : String)
  | scopeNotScalar (path resource : String)
  | fieldNotScalar (index : Nat) (path : String)
  | template (failure : Template.Failure)
  deriving DecidableEq, Repr

/-- A failure names the rule by its position in the set. -/
structure Failure where
  rule : Nat
  cause : Cause
  deriving DecidableEq, Repr

def Cause.message (wording : Wording) : Cause → String
  | .missingSource => "`source` must be specified"
  | .missingTarget => "`target` must be specified"
  | .missingTargetSelector => "target `objref` must be specified"
  | .sourceVariants count =>
      s!"exactly one of value, objref and multiref is allowed, found {count}"
  | .pathWithoutSelector => "`fieldref` requires `objref`"
  | .fieldWithoutSelector index => s!"multiref ref {index} has no `objref`"
  | .invalidPath path failure => s!"invalid field path '{path}': {failure.message wording}"
  | .invalidSelector failure => s!"invalid selector: {failure.message}"
  | .invalidScope pattern fault =>
      s!"invalid substring pattern '{pattern}': {wording.pattern fault}"
  | .selection failure => failure.message
  | .field path resource failure =>
      s!"field '{path}' of {resource}: {failure.message wording}"
  | .scopeNoMatch pattern value path resource =>
      s!"pattern '{pattern}' does not match '{value}' at '{path}' of {resource}"
  | .scopeNotScalar path resource =>
      s!"substring pattern at '{path}' of {resource} needs scalar values"
  | .fieldNotScalar index path => s!"multiref ref {index} ('{path}') is not a scalar"
  | .template failure => failure.message

def Failure.message (wording : Wording) (failure : Failure) : String :=
  s!"replacement[{failure.rule}]: {failure.cause.message wording}"

end Graft.Rule
