/-
This file runs the command on a directory. Nothing is written before all rules have been run.
-/

import Graft.Command.Arguments
import Graft.File.Load
import Graft.File.Save
import Graft.Rule.Build
import Graft.Rule.Run
import Graft.Settings

namespace Graft.Command

/-- What a run depends on besides its arguments. There is no input when the standard input is a
terminal. -/
structure Environment where
  directory : Directory
  home? : Option String
  input? : Option ByteArray

/-- Why a run fails. -/
inductive Failure where
  | load (failure : File.LoadFailure)
  | noInput
  | inputNotText
  | inputCorrupt (fault : SystemFault)
  | input (failure : Collection.Failure)
  | noRules
  | rulesFile (failure : File.RulesFailure)
  | functionConfig (fault : Yaml.Fault)
  | build (failure : Rule.Failure)
  | run (failure : Rule.Failure)
  | save (name : String) (failure : File.SaveFailure)
  deriving DecidableEq, Repr

namespace Failure

/-- What failed, without its cause. -/
def headline : Failure → String
  | .load failure => failure.headline
  | .noInput => "No input: pass a resource file or pipe resources on stdin"
  | .inputNotText => "Invalid UTF-8 in stdin"
  | .inputCorrupt _ => "Failed to decompress gzipped stdin"
  | .input _ => "Failed to load resources from stdin"
  | .noRules => "No rules: pass --config or use a ResourceList with functionConfig"
  | .rulesFile failure => failure.headline
  | .functionConfig _ => "Failed to parse functionConfig"
  | .build _ => "Invalid replacement rules"
  | .run _ => "Replacement failed"
  | .save name _ => "Failed to write " ++ name

def cause? (wording : Wording) : Failure → Option String
  | .load failure => some (failure.cause wording)
  | .noInput => none
  | .inputNotText => some (wording.system .notText)
  | .inputCorrupt fault => some (wording.system fault)
  | .input failure => some (failure.message wording)
  | .noRules => none
  | .rulesFile failure => some (failure.cause wording)
  | .functionConfig fault => some (File.draftMessage wording fault)
  | .build failure => some (failure.message wording)
  | .run failure => some (failure.message wording)
  | .save _ failure => some (failure.message wording)

end Failure

/-- The place of the settings below the home of a user. -/
def settingsName (home : String) : String := home ++ "/.config/yamlreplace/config.toml"

def Environment.settings (environment : Environment) : Settings :=
  Settings.ofContent (environment.home?.bind fun home =>
    (environment.directory.read (settingsName home)).toOption)

/-- The collection on the standard input, which may be compressed. -/
def readInput (content : ByteArray) : Except Failure Collection := do
  let text ← if Gzip.isCompressed content then (File.expand content).mapError .inputCorrupt
    else (File.textOf content).mapError fun _ => .inputNotText
  (Collection.parse text).mapError .input

/-- A missing name and a hyphen stand for the standard input. -/
def readCollection (environment : Environment) (input? : Option String) :
    Except Failure Collection :=
  match input?.filter (· != "-"), environment.input? with
  | some name, _ => (File.load environment.directory name).mapError .load
  | none, some content => readInput content
  | none, none => .error .noInput

/-- The rules of a file come before the rules of the collection. -/
def readDrafts (environment : Environment) (rules? : Option String) (collection : Collection) :
    Except Failure (List RuleDraft) :=
  match rules?, collection.functionConfig? with
  | some name, _ => (File.loadRules environment.directory name).mapError .rulesFile
  | none, some config => (Schema.ofNode RuleDraft.listSchema config).mapError .functionConfig
  | none, none => .error .noRules

/-- The collection after all rules have been run. -/
def produce (environment : Environment) (arguments : Arguments) : Except Failure Collection := do
  let settings := environment.settings
  let collection ← readCollection environment arguments.input?
  let drafts ← readDrafts environment arguments.rules? collection
  let rules ← (Rule.buildAll settings.ruleOptions drafts).mapError .build
  let run := Rule.runAll Template.render settings.maxDepth rules collection.resources
  match run.failure? with
  | some failure => throw (.run failure)
  | none => return { collection with resources := run.resources }

/-- The exit code of a command, what it prints, why it fails, and the directory that it leaves. -/
structure Outcome where
  exit : Nat
  output : String
  failure? : Option Failure
  directory : Directory

/-- The result goes to the output file or is printed. -/
def run (environment : Environment) (arguments : Arguments) : Outcome :=
  match produce environment arguments, arguments.output? with
  | .error failure, _ => ⟨1, "", some failure, environment.directory⟩
  | .ok collection, none => ⟨0, collection.render, none, environment.directory⟩
  | .ok collection, some name =>
      let saved :=
        File.save environment.directory name collection environment.settings.createBackup
      ⟨saved.failure?.isSome.toNat, "", saved.failure?.map (.save name), saved.directory⟩

/-- The text that tells the version. -/
def versionText : String := "yamlreplace 0.1.0\n"

/-- The text that explains the arguments. -/
def helpText : String := Text.join "\n" [
  "Apply replacement rules to a YAML resource stream",
  "",
  "Usage: yamlreplace [OPTIONS] [INPUT]",
  "",
  "Arguments:",
  "  [INPUT]  Resource file (`-` or omitted reads stdin). A single ResourceList document may " ++
    "carry the rules in its functionConfig",
  "",
  "Options:",
  "  -c, --config <CONFIG>  Rules file with a `replacements` list",
  "  -o, --output <OUTPUT>  Write the result here instead of stdout",
  "  -v, --verbose          Log each rule and field write to stderr",
  "  -h, --help             Print help",
  "  -V, --version          Print version",
  ""]

/-- Everything but a run leaves the directory as it is. -/
def respond (environment : Environment) (arguments : List String) : Outcome :=
  match Invocation.ofList arguments with
  | .run arguments => run environment arguments
  | .help => ⟨0, helpText, none, environment.directory⟩
  | .version => ⟨0, versionText, none, environment.directory⟩
  | .misuse => ⟨2, "", none, environment.directory⟩

end Graft.Command
