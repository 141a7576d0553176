/-
This file shows that a larger bound on nested documents changes no run, unless the run failed
because the bound was exceeded.
-/

import Graft.Proofs.Path.Depth
import Graft.Proofs.Rule.Run
import Graft.Rule.Build

namespace Graft

open Rule (Cause)
open Result (FailsOnly)

/-- A cause that does not say that a path leads through more nested documents than the bound
allows. -/
def Rule.Cause.Shallow (cause : Cause) : Prop :=
  ∀ path label limit, cause ≠ .field path label (.depthExceeded limit)

/-- The cause of a field is shallow when the failure of its path is. -/
theorem Rule.Cause.shallow_field_iff {path label : String} {failure : Path.Failure} :
    (Cause.field path label failure).Shallow ↔ failure.Shallow := by
  constructor
  · rintro shallow limit rfl
    exact shallow path label limit rfl
  · rintro shallow _ _ limit ⟨⟩
    exact shallow limit rfl

variable {bound larger : Nat} {renderer : Template.Renderer} {before after resources : List Resource}

/-- A run ended because a path leads through more nested documents than the bound allows. -/
def Run.Exceeds (run : Run) : Prop :=
  ∃ number path label limit, run.failure? = some ⟨number, .field path label (.depthExceeded limit)⟩

/-- A field of a source that is read within the bound is read alike under a larger one. -/
theorem SourceField.read_mono {field : SourceField} (grows : bound ≤ larger)
    (shallow : FailsOnly Cause.Shallow (field.read bound resources)) :
    field.read larger resources = field.read bound resources := by
  rw [SourceField.read] at shallow ⊢
  rw [SourceField.read]
  split
  · rfl
  · rename_i position found
    simp only [found] at shallow
    have inner : FailsOnly Path.Failure.Shallow
        ((resources[position]?.getD ⟨.null⟩).root.read field.path bound) := fun failure failed =>
      Cause.shallow_field_iff.mp (shallow _ (by rw [failed]; rfl))
    simp only [Node.read_mono grows inner]

namespace Source

/-- Texts that are read within the bound are read alike under a larger one. -/
theorem readTexts_mono {index : Nat} {places : List SourceField} (grows : bound ≤ larger)
    (shallow : FailsOnly Cause.Shallow (readTexts bound resources index places)) :
    readTexts larger resources index places = readTexts bound resources index places := by
  induction places generalizing index with
  | nil => rfl
  | cons place rest inductionHypothesis =>
      rw [readTexts] at shallow ⊢
      rw [readTexts, SourceField.read_mono grows shallow.of_bind]
      refine shallow.bind_congr fun node inner => ?_
      split
      · rfl
      · rename_i text textual
        simp only [textual] at inner
        rw [inductionHypothesis inner.of_bind]

/-- A source whose value is read within the bound has the same one under a larger one. -/
theorem value_mono {source : Source} (grows : bound ≤ larger)
    (shallow : FailsOnly Cause.Shallow (source.value renderer bound resources)) :
    source.value renderer larger resources = source.value renderer bound resources := by
  cases source with
  | literal text => rfl
  | field place => exact SourceField.read_mono grows shallow
  | combined places template =>
      rw [Source.value] at shallow ⊢
      rw [Source.value, readTexts_mono grows shallow.of_bind]

end Source

namespace TargetField

variable {field : TargetField} {value root given : Node} {label : String}

/-- A value that a field gets within the bound it also gets under a larger one. -/
theorem Gives.mono (grows : bound ≤ larger) (gives : field.Gives bound value root given) :
    field.Gives larger value root given := by
  cases gives with
  | whole entire => exact .whole entire
  | spliced narrowed found textual replaced matched =>
      rw [← Node.read_mono grows (found ▸ .ok _)] at found
      exact .spliced narrowed found textual replaced matched

/-- A cause for which a field gets no value within the bound is one under a larger bound, too. -/
theorem Refuses.mono {cause : Cause} (grows : bound ≤ larger) (shallow : cause.Shallow)
    (refuses : field.Refuses bound value label root cause) :
    field.Refuses larger value label root cause := by
  cases refuses with
  | unread narrowed failed =>
      have inner := Cause.shallow_field_iff.mp shallow
      rw [← Node.read_mono grows (failed ▸ .error inner)] at failed
      exact .unread narrowed failed
  | container narrowed found container =>
      rw [← Node.read_mono grows (found ▸ .ok _)] at found
      exact .container narrowed found container
  | unmatched narrowed found textual replaced unmatched =>
      rw [← Node.read_mono grows (found ▸ .ok _)] at found
      exact .unmatched narrowed found textual replaced unmatched

/-- A field that fails within the bound fails alike under a larger one. -/
theorem Fails.mono {left : Node} {cause : Cause} (grows : bound ≤ larger)
    (shallow : cause.Shallow) (fails : field.Fails bound value label root left cause) :
    field.Fails larger value label root left cause := by
  cases fails with
  | refused refuses => exact .refused (refuses.mono grows shallow)
  | unwritten gives failed =>
      have inner := Cause.shallow_field_iff.mp shallow
      rw [← Node.write_mono grows (failed ▸ .error inner)] at failed
      exact .unwritten (gives.mono grows) failed

end TargetField

namespace Target

variable {target : Target} {value : Node} {resource changed left : Resource} {cause : Cause}

/-- Fields that are written within the bound are written alike under a larger one. -/
theorem Written.mono {fields : List TargetField} {root tree : Node} (grows : bound ≤ larger)
    (written : Written bound value fields root tree) : Written larger value fields root tree := by
  induction written with
  | nil root => exact .nil root
  | cons gives written _ inductionHypothesis =>
      rw [← Node.write_mono grows (written ▸ .ok _)] at written
      exact .cons (gives.mono grows) written inductionHypothesis

/-- A resource that is changed within the bound is changed alike under a larger one. -/
theorem Changes.mono (grows : bound ≤ larger) (changes : target.Changes bound value resource changed) :
    target.Changes larger value resource changed := by
  cases changes with
  | other refused => exact .other refused
  | written accepted written => exact .written accepted (written.mono grows)

/-- A target that fails at a resource within the bound fails alike under a larger one. -/
theorem Fails.mono (grows : bound ≤ larger) (shallow : cause.Shallow)
    (fails : target.Fails bound value resource left cause) :
    target.Fails larger value resource left cause := by
  obtain ⟨accepted, fields, written, fails⟩ := fails
  exact .field accepted fields (written.mono grows) (fails.mono grows shallow)

/-- A target that stops within the bound stops alike under a larger one. -/
theorem Stops.mono (grows : bound ≤ larger) (shallow : cause.Shallow)
    (stops : target.Stops bound value before after cause) :
    target.Stops larger value before after cause := by
  cases stops with
  | unchecked failed => exact .unchecked failed
  | written marked changes fails =>
      exact .written marked (changes.imp fun _ _ changes => changes.mono grows)
        (fails.mono grows shallow)

end Target

namespace Rule

variable {rule : Rule} {rules : List Rule}

/-- A rule that acts within the bound acts alike under a larger one. -/
theorem Acts.mono (grows : bound ≤ larger) (acts : rule.Acts renderer bound before after) :
    rule.Acts renderer larger before after := by
  obtain ⟨resolved, changes⟩ := acts
  rw [← Source.value_mono grows (resolved ▸ .ok _)] at resolved
  exact .intro resolved (changes.imp fun _ _ changes => changes.mono grows)

/-- A rule that stops within the bound stops alike under a larger one. -/
theorem Stops.mono {cause : Cause} (grows : bound ≤ larger) (shallow : cause.Shallow)
    (stops : rule.Stops renderer bound before after cause) :
    rule.Stops renderer larger before after cause := by
  cases stops with
  | unresolved failed =>
      rw [← Source.value_mono grows (failed ▸ .error shallow)] at failed
      exact .unresolved failed
  | target resolved stops =>
      rw [← Source.value_mono grows (resolved ▸ .ok _)] at resolved
      exact .target resolved (stops.mono grows shallow)

/-- Rules that ran within the bound run alike under a larger one. -/
theorem Ran.mono (grows : bound ≤ larger) (ran : Ran renderer bound rules before after) :
    Ran renderer larger rules before after := by
  induction ran with
  | nil resources => exact .nil resources
  | cons acts _ inductionHypothesis => exact .cons (acts.mono grows) inductionHypothesis

/-- A run that does not exceed the bound is the same under a larger one, with the failure that it
ends in and the resources that it leaves. -/
theorem runAll_mono (grows : bound ≤ larger)
    (shallow : ∀ failure, (runAll renderer bound rules before).failure? = some failure →
      failure.cause.Shallow) :
    runAll renderer larger rules before = runAll renderer bound rules before := by
  rcases ran_or_stops renderer bound rules before with
    ⟨after, ran⟩ | ⟨earlier, rule, later, middle, after, cause, rfl, ran, stops⟩
  · rw [ran.runAll_eq, (ran.mono grows).runAll_eq]
  · have run := ran.runAll_eq_of_stops stops later
    have inner : cause.Shallow := shallow ⟨earlier.length, cause⟩ (by rw [run])
    rw [run, (ran.mono grows).runAll_eq_of_stops (stops.mono grows inner)]

/-- The fields of a combined source are built alike under each bound. -/
theorem buildSourceFields_bound {defaultPath : String} (bound larger index : Nat)
    (drafts : List FieldDraft) :
    buildSourceFields ⟨larger, defaultPath⟩ index drafts =
      buildSourceFields ⟨bound, defaultPath⟩ index drafts := by
  induction drafts generalizing index with
  | nil => rfl
  | cons draft rest inductionHypothesis =>
      simp only [buildSourceFields, inductionHypothesis]
      rfl

/-- A rule is built alike under each bound. -/
theorem build_bound {defaultPath : String} (bound larger : Nat) (draft : RuleDraft) :
    build ⟨larger, defaultPath⟩ draft = build ⟨bound, defaultPath⟩ draft := by
  obtain ⟨_ | source, _ | target⟩ := draft
  · rfl
  · rfl
  · rfl
  · simp only [build, buildSource, buildSourceFields_bound bound larger]
    rfl

/-- A set of rules is built alike under each bound. -/
theorem buildFrom_bound {defaultPath : String} (bound larger number : Nat)
    (drafts : List RuleDraft) :
    buildFrom ⟨larger, defaultPath⟩ number drafts =
      buildFrom ⟨bound, defaultPath⟩ number drafts := by
  induction drafts generalizing number with
  | nil => rfl
  | cons draft rest inductionHypothesis =>
      simp only [buildFrom, build_bound bound larger, inductionHypothesis]

/-- What a set of drafts does to resources: its rules cannot be built, or they are run. -/
def perform (renderer : Template.Renderer) (options : RuleOptions) (drafts : List RuleDraft)
    (resources : List Resource) : Except Failure Run := do
  let rules ← buildAll options drafts
  return runAll renderer options.bound rules resources

/-- A larger bound changes neither the failure of a run nor the resources that it leaves, unless the
run exceeds its bound. A read or a write at a path succeeds only with a bound that allows one
document for each span after the first, and with such a bound neither exceeds it. -/
theorem perform_deeper (renderer : Template.Renderer) (bound : Nat) (defaultPath : String)
    (drafts : List RuleDraft) (resources : List Resource) :
    (∀ larger, bound ≤ larger →
      (∀ run, perform renderer ⟨bound, defaultPath⟩ drafts resources = .ok run → ¬run.Exceeds) →
        perform renderer ⟨larger, defaultPath⟩ drafts resources =
          perform renderer ⟨bound, defaultPath⟩ drafts resources) ∧
      ∀ (path : Path) (node value : Node),
        (bound + 1 < path.spans.length →
          (¬∃ found, node.read path bound = .ok found) ∧
            ¬∃ tree, node.write path value bound = .done tree) ∧
        (path.spans.length ≤ bound + 1 → ∀ limit,
          node.read path bound ≠ .error (.depthExceeded limit) ∧
            (node.write path value bound).failure? ≠ some (.depthExceeded limit)) := by
  refine ⟨fun larger grows within => ?_, fun path node value => ⟨fun long => ⟨?_, ?_⟩, ?_⟩⟩
  · have built : buildAll ⟨larger, defaultPath⟩ drafts = buildAll ⟨bound, defaultPath⟩ drafts :=
      buildFrom_bound bound larger 0 drafts
    rw [perform] at within ⊢
    rw [perform, built]
    cases accepted : buildAll ⟨bound, defaultPath⟩ drafts with
    | error failure => rfl
    | ok rules =>
        have shallow : ∀ failure, (runAll renderer bound rules resources).failure? = some failure →
            failure.cause.Shallow := by
          rintro ⟨number, _⟩ failed path label limit rfl
          exact within _ (by rw [accepted]; rfl) ⟨number, path, label, limit, failed⟩
        simp only [Result.ok_bind, runAll_mono grows shallow]
  · rintro ⟨found, read⟩
    have room := Node.room_of_readSpans (Nat.zero_le bound) read
    omega
  · rintro ⟨tree, written⟩
    have room := Node.room_of_writeSpans (Nat.zero_le bound) written
    omega
  · intro short limit
    refine ⟨fun failed => Node.shallow_of_read short _ failed limit rfl, fun failed => ?_⟩
    exact Node.shallow_of_write short _ (Edit.result_eq_error_iff.mpr failed) limit rfl

/-- The second rule stops at the text that the first one wrote to a nested document, under each
bound that allows this document. -/
theorem perform_deeper_port :
    let port : SourceDraft := ⟨some "81", ⟨none, none⟩, none⟩
    let draft (path : String) : RuleDraft :=
      ⟨some port, some ⟨some (Selector.ofKindName "Pod" ""), [path]⟩⟩
    let drafts := [draft "config|port", draft "config|port.name"]
    let resources : List Resource :=
      [⟨.mapping [("kind", .text "Pod"), ("config", .text "port: 80")]⟩]
    1 ≤ 5 ∧ ∃ run, perform Template.render ⟨1, ""⟩ drafts resources = .ok run ∧ ¬run.Exceeds ∧
      run.failure?.isSome ∧ perform Template.render ⟨5, ""⟩ drafts resources = .ok run := by
  intro port draft drafts resources
  have finished : (perform Template.render ⟨1, ""⟩ drafts resources).toOption.bind Run.failure? =
      some ⟨1, .field "config|port.name" "/Pod <no name>" (.kindMismatch "port" .mapping .scalar)⟩ := by
    decide +kernel
  cases performed : perform Template.render ⟨1, ""⟩ drafts resources with
  | error failure =>
      rw [performed] at finished
      cases finished
  | ok run =>
      rw [performed] at finished
      replace finished : run.failure? = some ⟨1, _⟩ := finished
      have within : ¬run.Exceeds := by
        rintro ⟨number, path, label, limit, exceeded⟩
        cases finished.symm.trans exceeded
      refine ⟨by decide, run, rfl, within, by rw [finished]; rfl, ?_⟩
      have deeper := (perform_deeper Template.render 1 "" drafts resources).1 5 (by decide)
      rw [performed] at deeper
      exact deeper fun other same => Except.ok.inj same ▸ within

end Rule

end Graft
