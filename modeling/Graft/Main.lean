/-
This file connects the command to the files and streams of the system.
-/

import Graft.Command

namespace Graft.Main

open Graft Command

/-- The fault that an error of the system stands for. -/
def faultOf : IO.Error → SystemFault
  | .noFileOrDirectory .. => .notFound
  | .permissionDenied .. => .denied
  | .resourceExhausted .. => .full
  | .hardwareFault .. => .broken
  | _ => .notAFile

/-- The directory with the item at a name, if there is one. What cannot be read as a file counts
as a folder. -/
def addItem (directory : Directory) (name : String) : IO Directory := do
  try
    return directory.add name (.file (← IO.FS.readBinFile name))
  catch error =>
    return if faultOf error = .notFound then directory else directory.add name .folder

/-- The environment of a run, with the files that its arguments name. -/
def environmentOf (arguments : Arguments) : IO Environment := do
  let home? := (← IO.getEnv "HOME").filter fun home => !home.isEmpty
  let names := [home?.map settingsName, arguments.input?.filter (· != "-"), arguments.rules?,
    arguments.output?]
  let directory ← (names.filterMap id).foldlM addItem Directory.empty
  let input ← IO.getStdin
  let readsInput := arguments.input?.all (· == "-")
  let input? ← if !readsInput then pure none
    else if ← input.isTty then pure none
    else some <$> input.readBinToEnd
  return ⟨directory, home?, input?⟩

/-- An action that stops a step at a stage if it fails. -/
def stopsAt {A : Type} (stage : File.Stage) (action : IO A) : EIO (File.Stage × SystemFault) A :=
  IO.toEIO (fun error => (stage, faultOf error)) action

def perform : File.Step → EIO (File.Stage × SystemFault) Unit
  | .copy source target => stopsAt .opening do
      IO.FS.writeBinFile target (← IO.FS.readBinFile source)
  | .write name content => do
      let file ← stopsAt .opening (IO.FS.Handle.mk name .write)
      stopsAt .writing do
        file.write content
        file.flush
  | .rename source target => stopsAt .opening (IO.FS.rename source target)

/-- The steps of a save up to the first that fails. -/
def performAll (compressed : Bool) : List File.Step → EIO File.SaveFailure Unit
  | [] => return
  | step :: rest => do
      EIO.adapt (fun stopped => step.failure compressed stopped.1 stopped.2) (perform step)
      performAll compressed rest

def report (failure : Failure) : IO UInt32 := do
  IO.eprintln ("Error: " ++ failure.headline)
  if let some cause := failure.cause? Wording.standard then
    IO.eprintln ("\nCaused by:\n    " ++ cause)
  return 1

/-- The text is written out to the end. -/
def print (text : String) : IO UInt32 := do
  let output ← IO.getStdout
  output.putStr text
  output.flush
  return 0

def saveTo (environment : Environment) (name : String) (collection : Collection) :
    IO UInt32 := do
  let copiesOld := environment.settings.createBackup && environment.directory.contains name
  match File.saveSteps name collection.render copiesOld with
  | .error failure => report (.save name failure)
  | .ok steps =>
      match ← EIO.toBaseIO (performAll (File.writesCompressed name) steps) with
      | .error failure => report (.save name failure)
      | .ok () => return 0

def run (arguments : Arguments) : IO UInt32 := do
  let environment ← environmentOf arguments
  match produce environment arguments, arguments.output? with
  | .error failure, _ => report failure
  | .ok collection, none => print collection.render
  | .ok collection, some name => saveTo environment name collection

end Graft.Main

def main (arguments : List String) : IO UInt32 :=
  match Graft.Command.Invocation.ofList arguments with
  | .run arguments => Graft.Main.run arguments
  | .help => Graft.Main.print Graft.Command.helpText
  | .version => Graft.Main.print Graft.Command.versionText
  | .misuse => do
      IO.eprintln "error: unexpected or missing argument\n\nFor more information, try '--help'."
      return 2
