/-
This file turns drafts into rules. A set of rules is built only if all its rules are valid.
-/

import Graft.Path.Parse
import Graft.Rule
import Graft.Rule.Draft
import Graft.Rule.Failure

namespace Graft.Rule

def compileSelector (selector : Selector) : Except Cause Matcher :=
  selector.compile.mapError .invalidSelector

def parsePath (text : String) : Except Cause Path :=
  (Path.parse text).mapError (.invalidPath text)

/-- The path of a source; a missing or blank one is the default. -/
def sourcePath (options : RuleOptions) (path? : Option String) : String :=
  ((path?.map Text.trimmed).filter fun path => !path.isEmpty).getD options.defaultPath

def buildSourceField (options : RuleOptions) (selector : Selector) (path? : Option String) :
    Except Cause SourceField := do
  return ⟨← compileSelector selector, ← parsePath (sourcePath options path?)⟩

/-- The fields of a combined source, counted from an index. -/
def buildSourceFields (options : RuleOptions) : Nat → List FieldDraft →
    Except Cause (List SourceField)
  | _, [] => .ok []
  | index, draft :: rest =>
      match draft.selector? with
      | none => .error (.fieldWithoutSelector index)
      | some selector => do
          let field ← buildSourceField options selector draft.path?
          return field :: (← buildSourceFields options (index + 1) rest)

/-- How many kinds of value a source gives. -/
def countVariants (draft : SourceDraft) : Nat :=
  draft.literal?.isSome.toNat + draft.field.selector?.isSome.toNat +
    draft.combined?.isSome.toNat

def buildSource (options : RuleOptions) (draft : SourceDraft) : Except Cause Source :=
  if draft.field.path?.isSome && draft.field.selector?.isNone then .error .pathWithoutSelector
  else match draft.literal?, draft.field.selector?, draft.combined? with
    | some value, none, none => .ok (.literal value)
    | none, some selector, none =>
        (buildSourceField options selector draft.field.path?).map .field
    | none, none, some combined => do
        return .combined (← buildSourceFields options 0 combined.fields) combined.template
    | _, _, _ => .error (.sourceVariants (countVariants draft))

def parseScope (pattern : String) : Except Cause Pattern :=
  (Pattern.parse pattern).mapError (.invalidScope pattern)

/-- A target path may end in a scope. -/
def buildTargetField (text : String) : Except Cause TargetField := do
  let (base, scope?) := Path.splitScope (Text.trimmed text)
  let scope? ← scope?.mapM parseScope
  return ⟨← parsePath base, scope?⟩

def buildTarget (draft : TargetDraft) : Except Cause Target :=
  match draft.selector? with
  | none => .error .missingTargetSelector
  | some selector => do
      let fields ← draft.paths.mapM buildTargetField
      return ⟨← compileSelector selector, fields⟩

def build (options : RuleOptions) (draft : RuleDraft) : Except Cause Rule :=
  match draft.source?, draft.target? with
  | none, _ => .error .missingSource
  | some _, none => .error .missingTarget
  | some source, some target => do
      return ⟨← buildSource options source, ← buildTarget target⟩

/-- The rules of a set, counted from a number. -/
def buildFrom (options : RuleOptions) : Nat → List RuleDraft → Except Failure (List Rule)
  | _, [] => .ok []
  | number, draft :: rest =>
      match build options draft with
      | .error cause => .error ⟨number, cause⟩
      | .ok rule => do return rule :: (← buildFrom options (number + 1) rest)

def buildAll (options : RuleOptions) (drafts : List RuleDraft) : Except Failure (List Rule) :=
  buildFrom options 0 drafts

end Graft.Rule
