/-
This file states at which stages a run stops, and shows that a run changes nothing before it saves and
that it saves the text that it prints otherwise.
-/

import Graft.Command
import Graft.Proofs.Collection.ReadBack
import Graft.Proofs.File.Writable

namespace Graft.Command

open Result

variable {environment : Environment} {arguments : Arguments} {collection : Collection}
  {failure : Failure}

/-- A run reads a collection and the drafts of its rules. -/
structure Reads (environment : Environment) (arguments : Arguments) (collection : Collection)
    (drafts : List RuleDraft) : Prop where
  input : readCollection environment arguments.input? = .ok collection
  rules : readDrafts environment arguments.rules? collection = .ok drafts

/-- The run of some rules over the resources of a collection. -/
def execute (environment : Environment) (rules : List Rule) (collection : Collection) : Run :=
  Rule.runAll Template.render environment.settings.maxDepth rules collection.resources

/-- A run stops for a failure: the collection is not read, the drafts of the rules are not read, the
rules are not built, or they fail on the resources. -/
inductive Stops (environment : Environment) (arguments : Arguments) : Failure → Prop where
  | input {failure : Failure} (unread : readCollection environment arguments.input? = .error failure) :
      Stops environment arguments failure
  | rules {collection : Collection} {failure : Failure}
      (read : readCollection environment arguments.input? = .ok collection)
      (unread : readDrafts environment arguments.rules? collection = .error failure) :
      Stops environment arguments failure
  | invalid {collection : Collection} {drafts : List RuleDraft} {failure : Rule.Failure}
      (read : Reads environment arguments collection drafts)
      (unbuilt : Rule.buildAll environment.settings.ruleOptions drafts = .error failure) :
      Stops environment arguments (.build failure)
  | failed {collection : Collection} {drafts : List RuleDraft} {rules : List Rule}
      {failure : Rule.Failure} (read : Reads environment arguments collection drafts)
      (built : Rule.buildAll environment.settings.ruleOptions drafts = .ok rules)
      (halted : (execute environment rules collection).failure? = some failure) :
      Stops environment arguments (.run failure)

/-- A run ends with a collection: all its rules were run over the resources. -/
inductive Ends (environment : Environment) (arguments : Arguments) : Collection → Prop where
  | intro {collection : Collection} {drafts : List RuleDraft} {rules : List Rule}
      (read : Reads environment arguments collection drafts)
      (built : Rule.buildAll environment.settings.ruleOptions drafts = .ok rules)
      (done : (execute environment rules collection).failure? = none) :
      Ends environment arguments
        { collection with resources := (execute environment rules collection).resources }

/-- What is produced when the rules have been run. -/
def settle (collection : Collection) (done : Run) : Except Failure Collection :=
  match done.failure? with
  | some failure => .error (.run failure)
  | none => .ok { collection with resources := done.resources }

/-- The stages of a run follow one another. -/
theorem produce_eq (environment : Environment) (arguments : Arguments) :
    produce environment arguments = (do
      let collection ← readCollection environment arguments.input?
      let drafts ← readDrafts environment arguments.rules? collection
      let rules ← (Rule.buildAll environment.settings.ruleOptions drafts).mapError .build
      settle collection (execute environment rules collection)) := by
  rfl

/-- A run that stops produces nothing. -/
theorem Stops.produce_eq (stopped : Stops environment arguments failure) :
    produce environment arguments = .error failure := by
  rw [Command.produce_eq]
  cases stopped with
  | input unread => rw [unread, error_bind]
  | rules read unread => rw [read, ok_bind, unread, error_bind]
  | invalid read unbuilt =>
      rw [read.input, ok_bind, read.rules, ok_bind, unbuilt]
      rfl
  | failed read built halted =>
      rw [read.input, ok_bind, read.rules, ok_bind, built]
      change settle _ _ = _
      rw [settle, halted]

/-- A run that ends produces its collection. -/
theorem Ends.produce_eq (ended : Ends environment arguments collection) :
    produce environment arguments = .ok collection := by
  rw [Command.produce_eq]
  cases ended with
  | intro read built done =>
      rw [read.input, ok_bind, read.rules, ok_bind, built]
      change settle _ _ = _
      rw [settle, done]

/-- A run stops for a failure or ends with a collection. -/
theorem stops_or_ends (environment : Environment) (arguments : Arguments) :
    (∃ failure, Stops environment arguments failure) ∨
      ∃ collection, Ends environment arguments collection := by
  cases read : readCollection environment arguments.input? with
  | error failure => exact .inl ⟨failure, .input read⟩
  | ok collection =>
      cases drafted : readDrafts environment arguments.rules? collection with
      | error failure => exact .inl ⟨failure, .rules read drafted⟩
      | ok drafts =>
          cases built : Rule.buildAll environment.settings.ruleOptions drafts with
          | error failure => exact .inl ⟨.build failure, .invalid ⟨read, drafted⟩ built⟩
          | ok rules =>
              cases halted : (execute environment rules collection).failure? with
              | some failure => exact .inl ⟨.run failure, .failed ⟨read, drafted⟩ built halted⟩
              | none => exact .inr ⟨_, .intro ⟨read, drafted⟩ built halted⟩

/-- A run produces nothing exactly when it stops. -/
theorem produce_eq_error_iff :
    produce environment arguments = .error failure ↔ Stops environment arguments failure := by
  constructor
  · intro nothing
    rcases stops_or_ends environment arguments with ⟨other, stopped⟩ | ⟨collection, ended⟩
    · cases stopped.produce_eq.symm.trans nothing
      exact stopped
    · cases ended.produce_eq.symm.trans nothing
  · exact Stops.produce_eq

/-- A run produces the collection that it ends with. -/
theorem produce_eq_ok_iff :
    produce environment arguments = .ok collection ↔ Ends environment arguments collection := by
  constructor
  · intro produced
    rcases stops_or_ends environment arguments with ⟨failure, stopped⟩ | ⟨other, ended⟩
    · cases stopped.produce_eq.symm.trans produced
    · cases ended.produce_eq.symm.trans produced
      exact ended
  · exact Ends.produce_eq

/-- A run that stops prints nothing and changes nothing. -/
theorem Stops.run_eq (stopped : Stops environment arguments failure) :
    run environment arguments = ⟨1, "", some failure, environment.directory⟩ := by
  rw [run, stopped.produce_eq]

/-- A run without an output file prints a text. -/
structure Prints (environment : Environment) (arguments : Arguments) (text : String) : Prop where
  exit : (run environment { arguments with output? := none }).exit = 0
  output : (run environment { arguments with output? := none }).output = text

/-- What is produced does not depend on where it goes. -/
theorem produce_output (output? : Option String) :
    produce environment { arguments with output? } = produce environment arguments := by
  rfl

/-- What a run prints is the text of the collection that it ends with. -/
theorem prints_iff {text : String} :
    Prints environment arguments text ↔
      ∃ collection, Ends environment arguments collection ∧ collection.render = text := by
  constructor
  · rintro ⟨exit, output⟩
    rw [run, produce_output] at exit output
    cases produced : produce environment arguments with
    | error failure =>
        rw [produced] at exit
        cases exit
    | ok collection =>
        rw [produced] at output
        exact ⟨collection, produce_eq_ok_iff.mp produced, output⟩
  · rintro ⟨collection, ended, rfl⟩
    constructor <;> rw [run, produce_output, ended.produce_eq]

/-- A run that ends saves its collection in the output file. -/
theorem Ends.run_eq (ended : Ends environment arguments collection) (name : String) :
    run environment { arguments with output? := some name } =
      let saved :=
        File.save environment.directory name collection environment.settings.createBackup
      ⟨saved.failure?.isSome.toNat, "", saved.failure?.map (.save name), saved.directory⟩ := by
  rw [run, produce_output, ended.produce_eq]

/-- Each run stops or has a text to print. One that stops prints nothing and leaves the directory as it
was. Where a run without an output file prints a text, the same run with one prints nothing, succeeds
exactly if the file can be written, and then leaves a content in the file that stands for the text. -/
theorem run_allOrNothing (distinct : environment.directory.Distinct) (arguments : Arguments) :
    ((∃ failure, Stops environment arguments failure) ∨
      ∃ text, Prints environment arguments text) ∧
    (∀ failure, Stops environment arguments failure →
      run environment arguments = ⟨1, "", some failure, environment.directory⟩) ∧
    ∀ text, Prints environment arguments text → ∀ name,
      let outcome := run environment { arguments with output? := some name }
      outcome.output = "" ∧
        (outcome.exit = 0 ↔
          File.Writable environment.directory name environment.settings.createBackup) ∧
        (outcome.exit = 0 → ∃ content, outcome.directory.read name = .ok content ∧
          File.Holds name content text) := by
  have total : (∃ failure, Stops environment arguments failure) ∨
      ∃ text, Prints environment arguments text :=
    (stops_or_ends environment arguments).imp_right fun ⟨collection, ended⟩ =>
      ⟨collection.render, prints_iff.mpr ⟨collection, ended, rfl⟩⟩
  refine ⟨total, fun failure stopped => stopped.run_eq, fun text printed name => ?_⟩
  obtain ⟨collection, ended, rfl⟩ := prints_iff.mp printed
  rw [ended.run_eq]
  have succeeds (saved : File.Saved) : saved.failure?.isSome.toNat = 0 ↔ saved.failure? = none := by
    cases saved.failure? <;> simp
  refine ⟨rfl, (succeeds _).trans (File.save_finished_iff distinct), fun exit => ?_⟩
  exact File.read_of_save distinct ((succeeds _).mp exit)

/-- A run over an old compressed file keeps a copy of it and saves the text that it prints otherwise. A
run whose second rule fails leaves everything as it was, although the first rule changed something. -/
theorem run_allOrNothing_compressed :
    let first : String := "replacements:\n- source:\n    value: B\n  target:\n    objref:\n" ++
      "      kind: A\n    fieldrefs:\n    - kind\n"
    let second : String := "- source:\n    objref:\n      kind: A\n  target:\n    objref: \x7b\x7d\n"
    let environment : Environment := {
      directory := Directory.ofFiles [("rules.yaml", first.toUTF8),
        ("twice.yaml", (first ++ second).toUTF8),
        ("out.yaml.gz", "old".toUTF8),
        ("home/.config/yamlreplace/config.toml", "create_backup = true\n".toUTF8)]
      home? := some "home"
      input? := some "kind: A\n".toUTF8 }
    let arguments : Arguments := { rules? := some "rules.yaml" }
    let failing : Arguments := { rules? := some "twice.yaml", output? := some "out.yaml.gz" }
    let failure : Failure := .run ⟨1, .selection (.notFound "\x7bkind: A\x7d")⟩
    environment.directory.Distinct ∧ Stops environment failing failure ∧
      run environment failing = ⟨1, "", some failure, environment.directory⟩ ∧
      environment.settings.createBackup = true ∧
      Prints environment arguments "kind: B\n" ∧
      ∃ content, (run environment { arguments with output? := some "out.yaml.gz" }).directory.read
        "out.yaml.gz" = .ok content ∧ File.Holds "out.yaml.gz" content "kind: B\n" := by
  intro first second environment arguments failing failure
  have distinct : environment.directory.Distinct := Directory.distinct_ofFiles _
  have stopped : Stops environment failing failure := produce_eq_error_iff.mp (by decide +kernel)
  have printed : Prints environment arguments "kind: B\n" := by
    have ended : Ends environment arguments ⟨[⟨.mapping [("kind", .text "B")]⟩], .stream⟩ :=
      produce_eq_ok_iff.mp (by decide +kernel)
    exact prints_iff.mpr ⟨_, ended, by decide +kernel⟩
  have writable : File.Writable environment.directory "out.yaml.gz"
      environment.settings.createBackup := {
    file := ⟨"out.yaml.gz", by decide +kernel⟩
    scratch := ⟨"out.yaml.tmp", by decide +kernel⟩
    copy := fun _ => ⟨"out.yaml.gz.bak", by decide +kernel, "out.yaml.gz.bak", by decide +kernel⟩ }
  obtain ⟨-, unchanged, -⟩ := run_allOrNothing distinct failing
  obtain ⟨-, -, saves⟩ := run_allOrNothing distinct arguments
  obtain ⟨-, exits, holds⟩ := saves _ printed "out.yaml.gz"
  exact ⟨distinct, stopped, unchanged failure stopped, by decide +kernel, printed,
    holds (exits.mpr writable)⟩

end Graft.Command
