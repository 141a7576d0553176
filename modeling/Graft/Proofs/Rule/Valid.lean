/-
This file states which drafts are valid, and shows that a set of rules is built exactly when all of
its drafts are.
-/

import Graft.Proofs.Result
import Graft.Rule.Build
import Mathlib.Tactic.MkIffOfInductiveProp

namespace Graft

open Result

/-- A selector is valid when its conditions on annotations and on labels can be read. -/
@[mk_iff]
structure Selector.Valid (selector : Selector) : Prop where
  annotations : Succeeds (Label.parseCondition selector.annotationSelector)
  labels : Succeeds (Label.parseCondition selector.labelSelector)

/-- The text of the path that a draft of a place names: the one that is given, without the blanks
around it, or the default one if none is given or it is blank. -/
inductive FieldDraft.Names (options : RuleOptions) (draft : FieldDraft) : String → Prop where
  | given {text : String} (written : draft.path? = some text) (marked : Text.trimmed text ≠ "") :
      Names options draft (Text.trimmed text)
  | default (blank : ∀ text, draft.path? = some text → Text.trimmed text = "") :
      Names options draft options.defaultPath

/-- A place is valid when it has a valid selector and its path can be read. -/
@[mk_iff]
structure FieldDraft.Valid (options : RuleOptions) (draft : FieldDraft) : Prop where
  selector : ∃ selector, draft.selector? = some selector ∧ selector.Valid
  path : ∃ text, draft.Names options text ∧ Succeeds (Path.parse text)

/-- A source is valid when it gives exactly one kind of value, has a path only beside a selector,
and all its places are valid. -/
@[mk_iff]
structure SourceDraft.Valid (options : RuleOptions) (draft : SourceDraft) : Prop where
  single : [draft.literal?.isSome, draft.field.selector?.isSome, draft.combined?.isSome].count
    true = 1
  owned : draft.field.path?.isSome → draft.field.selector?.isSome
  field : draft.field.selector?.isSome → draft.field.Valid options
  combined : ∀ combined, draft.combined? = some combined →
    ∀ place ∈ combined.fields, place.Valid options

/-- The text of a field is valid when its path can be read, and its pattern if it ends in one. -/
@[mk_iff]
structure TargetDraft.ValidField (text : String) : Prop where
  path : Succeeds (Path.parse (Path.splitScope (Text.trimmed text)).1)
  scope : ∀ pattern, (Path.splitScope (Text.trimmed text)).2 = some pattern →
    Succeeds (Pattern.parse pattern)

/-- A target is valid when it has a valid selector and all its fields are valid. -/
@[mk_iff]
structure TargetDraft.Valid (draft : TargetDraft) : Prop where
  selector : ∃ selector, draft.selector? = some selector ∧ selector.Valid
  fields : ∀ text ∈ draft.paths, ValidField text

/-- A draft is valid when it has a valid source and a valid target. -/
@[mk_iff]
structure RuleDraft.Valid (options : RuleOptions) (draft : RuleDraft) : Prop where
  source : ∃ source, draft.source? = some source ∧ source.Valid options
  target : ∃ target, draft.target? = some target ∧ target.Valid

namespace Selector

/-- A condition is kept or dropped once it is read. -/
theorem succeeds_condition?_iff {text : String} :
    Succeeds (condition? text) ↔ Succeeds (Label.parseCondition text) := by
  rw [condition?]
  cases Label.parseCondition text <;> simp

/-- A selector can be compiled exactly when it is valid. -/
theorem succeeds_compile_iff {selector : Selector} : Succeeds selector.compile ↔ selector.Valid := by
  rw [valid_iff, ← succeeds_condition?_iff, ← succeeds_condition?_iff]
  exact succeeds_bind_iff fun _ => succeeds_bind_pure_iff

end Selector

namespace Rule

variable {options : RuleOptions}

/-- A path can be parsed for a rule exactly when it can be read. -/
theorem succeeds_parsePath_iff {text : String} :
    Succeeds (parsePath text) ↔ Succeeds (Path.parse text) :=
  succeeds_mapError_iff

/-- A selector can be compiled for a rule exactly when it is valid. -/
theorem succeeds_compileSelector_iff {selector : Selector} :
    Succeeds (compileSelector selector) ↔ selector.Valid :=
  succeeds_mapError_iff.trans Selector.succeeds_compile_iff

/-- A path that is written is taken without the blanks around it, unless nothing is left. -/
theorem sourcePath_some (text : String) : sourcePath options (some text) =
    if Text.trimmed text = "" then options.defaultPath else Text.trimmed text := by
  by_cases blank : Text.trimmed text = "" <;> simp [sourcePath, Option.filter_some, blank]

/-- The path of a source is the one that its draft names. -/
theorem names_iff {draft : FieldDraft} {text : String} :
    draft.Names options text ↔ sourcePath options draft.path? = text := by
  constructor
  · rintro (⟨written, marked⟩ | blank)
    · rw [written, sourcePath_some, if_neg marked]
    · cases written : draft.path? with
      | none => rfl
      | some text => rw [sourcePath_some, if_pos (blank text written)]
  · rintro rfl
    cases written : draft.path? with
    | none => exact .default (by simp [written])
    | some text =>
        rw [sourcePath_some]
        by_cases blank : Text.trimmed text = ""
        · rw [if_pos blank]
          exact .default (by simp [written, blank])
        · rw [if_neg blank]
          exact .given written blank

/-- A place with a selector is built exactly when it is valid. -/
theorem succeeds_buildSourceField_iff {selector : Selector} {path? : Option String} :
    Succeeds (buildSourceField options selector path?) ↔
      FieldDraft.Valid options ⟨some selector, path?⟩ := by
  have path : Succeeds (parsePath (sourcePath options path?)) ↔
      ∃ text, FieldDraft.Names options ⟨some selector, path?⟩ text ∧ Succeeds (Path.parse text) := by
    simp [names_iff, succeeds_parsePath_iff]
  simp only [FieldDraft.valid_iff, Option.some.injEq, exists_eq_left', ← path,
    ← succeeds_compileSelector_iff]
  exact succeeds_bind_iff fun _ => succeeds_bind_pure_iff

/-- Places are built exactly when each of them is valid. -/
theorem succeeds_buildSourceFields_iff (index : Nat) {drafts : List FieldDraft} :
    Succeeds (buildSourceFields options index drafts) ↔ ∀ draft ∈ drafts, draft.Valid options := by
  induction drafts generalizing index with
  | nil => simp [buildSourceFields]
  | cons draft rest inductionHypothesis =>
      rcases draft with ⟨_ | selector, path?⟩
      · simp [buildSourceFields, FieldDraft.valid_iff]
      · rw [buildSourceFields, List.forall_mem_cons, ← succeeds_buildSourceField_iff,
          ← inductionHypothesis (index + 1)]
        exact succeeds_bind_iff fun _ => succeeds_bind_pure_iff

/-- A source is built exactly when it is valid. -/
theorem succeeds_buildSource_iff {draft : SourceDraft} :
    Succeeds (buildSource options draft) ↔ draft.Valid options := by
  rcases draft with ⟨literal?, ⟨selector?, path?⟩, combined?⟩
  have places {drafts : List FieldDraft} {template : String} :
      Succeeds (do return Source.combined (← buildSourceFields options 0 drafts) template) ↔
        ∀ draft ∈ drafts, draft.Valid options := by
    rw [← succeeds_buildSourceFields_iff 0]
    exact succeeds_bind_pure_iff
  rw [SourceDraft.valid_iff]
  -- Each of the sources that give one kind of value has its own way to succeed.
  rcases literal? with _ | value <;> rcases selector? with _ | selector <;>
    rcases combined? with _ | combined <;> rcases path? with _ | path <;>
    simp [buildSource, succeeds_map_iff, succeeds_buildSourceField_iff]
  exact places

/-- A field of a target is built exactly when its text is valid. -/
theorem succeeds_buildTargetField_iff {text : String} :
    Succeeds (buildTargetField text) ↔ TargetDraft.ValidField text := by
  rw [buildTargetField, TargetDraft.validField_iff]
  rcases Path.splitScope (Text.trimmed text) with ⟨base, scope?⟩
  have bounded : Succeeds (scope?.mapM parseScope) ↔
      ∀ pattern, scope? = some pattern → Succeeds (Pattern.parse pattern) := by
    cases scope? with
    | none => simp
    | some pattern =>
        have read : Succeeds (parseScope pattern) ↔ Succeeds (Pattern.parse pattern) :=
          succeeds_mapError_iff
        rw [Option.mapM_some]
        exact (succeeds_map_iff.trans read).trans (by simp)
  rw [← bounded, ← succeeds_parsePath_iff, and_comm]
  exact succeeds_bind_iff fun _ => succeeds_bind_pure_iff

/-- A target is built exactly when it is valid. -/
theorem succeeds_buildTarget_iff {draft : TargetDraft} :
    Succeeds (buildTarget draft) ↔ draft.Valid := by
  rcases draft with ⟨_ | selector, paths⟩
  · simp [buildTarget, TargetDraft.valid_iff]
  · have fields : Succeeds (paths.mapM buildTargetField) ↔
        ∀ text ∈ paths, TargetDraft.ValidField text := by
      simp only [succeeds_mapM_iff, succeeds_buildTargetField_iff]
    simp only [TargetDraft.valid_iff, Option.some.injEq, exists_eq_left', ← fields,
      ← succeeds_compileSelector_iff]
    rw [and_comm]
    exact succeeds_bind_iff fun _ => succeeds_bind_pure_iff

/-- A rule is built exactly when its draft is valid. -/
theorem succeeds_build_iff {draft : RuleDraft} :
    Succeeds (build options draft) ↔ draft.Valid options := by
  rcases draft with ⟨source?, target?⟩
  rw [RuleDraft.valid_iff]
  rcases source? with _ | source <;> rcases target? with _ | target <;> simp [build]
  rw [← succeeds_buildSource_iff, ← succeeds_buildTarget_iff]
  exact succeeds_bind_iff fun _ => succeeds_bind_pure_iff

/-- Some drafts fail at a position when the first of them cannot be built there, or when it is valid
and the others fail at this position. -/
theorem buildFrom_cons_eq_error_iff {number position : Nat} {first : RuleDraft}
    {rest : List RuleDraft} {cause : Cause} :
    buildFrom options number (first :: rest) = .error ⟨position, cause⟩ ↔
      number = position ∧ build options first = .error cause ∨
        first.Valid options ∧ buildFrom options (number + 1) rest = .error ⟨position, cause⟩ := by
  rw [buildFrom, ← succeeds_build_iff]
  cases build options first with
  | error fault => simp
  | ok rule =>
      simp only [bind_eq_error]
      simp

/-- A failure at a position of a list of drafts is the one of the first draft that is not valid. -/
theorem buildFrom_eq_error_iff {number position : Nat} {drafts : List RuleDraft} {cause : Cause} :
    buildFrom options number drafts = .error ⟨position, cause⟩ ↔
      ∃ earlier draft later, drafts = earlier ++ draft :: later ∧
        position = number + earlier.length ∧ (∀ draft ∈ earlier, draft.Valid options) ∧
        build options draft = .error cause := by
  induction drafts generalizing number with
  | nil => simp [buildFrom]
  | cons first rest inductionHypothesis =>
      rw [buildFrom_cons_eq_error_iff, inductionHypothesis]
      constructor
      · rintro (⟨rfl, failed⟩ | ⟨valid, earlier, draft, later, rfl, rfl, others, failed⟩)
        · exact ⟨[], first, rest, rfl, rfl, by simp, failed⟩
        · exact ⟨first :: earlier, draft, later, rfl, by simp only [List.length_cons]; omega,
            List.forall_mem_cons.mpr ⟨valid, others⟩, failed⟩
      · rintro ⟨earlier, draft, later, split, rfl, valid, failed⟩
        cases earlier with
        | nil =>
            cases split
            exact .inl ⟨rfl, failed⟩
        | cons head earlier =>
            cases split
            obtain ⟨headValid, others⟩ := List.forall_mem_cons.mp valid
            exact .inr ⟨headValid, earlier, draft, later, rfl,
              by simp only [List.length_cons]; omega, others, failed⟩

/-- Rules are built from a list of drafts exactly when each of them is valid. -/
theorem succeeds_buildFrom_iff (number : Nat) {drafts : List RuleDraft} :
    Succeeds (buildFrom options number drafts) ↔ ∀ draft ∈ drafts, draft.Valid options := by
  induction drafts generalizing number with
  | nil => simp [buildFrom]
  | cons draft rest inductionHypothesis =>
      rw [buildFrom, List.forall_mem_cons, ← succeeds_build_iff,
        ← inductionHypothesis (number + 1)]
      cases build options draft with
      | error cause => simp
      | ok rule => simpa using succeeds_bind_pure_iff

/-- A set of rules is built exactly when all of its drafts are valid, and it fails at a position
exactly when the draft there is the first one that is not valid. -/
theorem buildAll_valid (options : RuleOptions) (drafts : List RuleDraft) :
    ((∃ rules, buildAll options drafts = .ok rules) ↔
      ∀ draft ∈ drafts, draft.Valid options) ∧
    ∀ position, (∃ cause, buildAll options drafts = .error ⟨position, cause⟩) ↔
      ∃ earlier draft later, drafts = earlier ++ draft :: later ∧ position = earlier.length ∧
        (∀ draft ∈ earlier, draft.Valid options) ∧ ¬draft.Valid options := by
  refine ⟨succeeds_buildFrom_iff 0, fun position => ?_⟩
  have fails {draft : RuleDraft} :
      ¬draft.Valid options ↔ ∃ cause, build options draft = .error cause := by
    rw [← succeeds_build_iff]
    cases build options draft <;> simp
  simp only [buildAll, buildFrom_eq_error_iff, fails, Nat.zero_add]
  constructor
  · rintro ⟨cause, earlier, draft, later, split, counted, valid, failed⟩
    exact ⟨earlier, draft, later, split, counted, valid, cause, failed⟩
  · rintro ⟨earlier, draft, later, split, counted, valid, cause, failed⟩
    exact ⟨cause, earlier, draft, later, split, counted, valid, failed⟩

end Rule

end Graft
