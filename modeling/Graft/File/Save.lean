/-
This file saves collections. A file is written under a temporary name first and renamed then, so
that a failure leaves the old file unless it has the temporary name itself.
-/

import Graft.Collection
import Graft.Directory
import Graft.Gzip

namespace Graft.File

/-- One change of a directory. -/
inductive Step where
  | copy (source target : String)
  | write (name : String) (content : ByteArray)
  | rename (source target : String)

/-- Where a step stops: when a file is opened, while its content is written, or when the end of a
compressed content is. -/
inductive Stage where
  | opening
  | writing
  | closing
  deriving DecidableEq, Repr

/-- What stops a step that the directory allows. A file that is opened has lost its old content, and
what is left in it when the step stops may be anything. -/
inductive Mishap where
  | opening (fault : SystemFault)
  | writing (fault : SystemFault) (left : ByteArray)
  | closing (fault : SystemFault) (left : ByteArray)

namespace Mishap

def stage : Mishap → Stage
  | .opening _ => .opening
  | .writing _ _ => .writing
  | .closing _ _ => .closing

def fault : Mishap → SystemFault
  | .opening fault => fault
  | .writing fault _ => fault
  | .closing fault _ => fault

def left? : Mishap → Option ByteArray
  | .opening _ => none
  | .writing _ left => some left
  | .closing _ left => some left

end Mishap

/-- What a directory is stored on. It may stop any step. -/
abbrev Medium := Step → Option Mishap

/-- A medium that stops no step. -/
def Medium.sound : Medium := fun _ => none

/-- Why a collection is not saved. -/
inductive SaveFailure where
  | invalidName
  | backup (fault : SystemFault)
  | create (fault : SystemFault)
  | compress (fault : SystemFault)
  | finish (fault : SystemFault)
  | write (fault : SystemFault)
  | rename (fault : SystemFault)
  deriving DecidableEq, Repr

namespace SaveFailure

def headline : SaveFailure → String
  | .invalidName => "Invalid file name"
  | .backup _ => "Failed to create backup"
  | .create _ => "Failed to create temp file"
  | .compress _ => "Failed to write compressed data"
  | .finish _ => "Failed to finish compression"
  | .write _ => "Failed to write temp file"
  | .rename _ => "Failed to rename temp file"

def fault? : SaveFailure → Option SystemFault
  | .invalidName => none
  | .backup fault => some fault
  | .create fault => some fault
  | .compress fault => some fault
  | .finish fault => some fault
  | .write fault => some fault
  | .rename fault => some fault

def message (wording : Wording) (failure : SaveFailure) : String :=
  match failure.fault? with
  | some fault => failure.headline ++ ": " ++ wording.system fault
  | none => failure.headline

end SaveFailure

/-- A directory after a save or a step of one, and the failure if it was not finished. -/
structure Saved where
  directory : Directory
  failure? : Option SaveFailure

namespace Step

/-- A step that nothing stops but the directory itself. -/
def perform (directory : Directory) : Step → Except SystemFault Directory
  | .copy source target => directory.copy source target
  | .write name content => directory.write name content
  | .rename source target => directory.rename source target

/-- What a fault in a step means for the save it belongs to. Only where the file is compressed do the
stages of its write have failures of their own. -/
def failure (compressed : Bool) (stage : Stage) (fault : SystemFault) : Step → SaveFailure
  | .copy _ _ => .backup fault
  | .write _ _ =>
      if compressed then
        match stage with
        | .opening => .create fault
        | .writing => .compress fault
        | .closing => .finish fault
      else .write fault
  | .rename _ _ => .rename fault

/-- The directory after a step that was stopped. A rename is done as a whole or not at all. -/
def stop (directory : Directory) (left? : Option ByteArray) : Step → Directory
  | .copy _ target => directory.leave target left?
  | .write name _ => directory.leave name left?
  | .rename _ _ => directory

/-- A step on a medium. What the directory refuses changes nothing. -/
def attempt (medium : Medium) (compressed : Bool) (directory : Directory) (step : Step) : Saved :=
  match step.perform directory with
  | .error fault => ⟨directory, some (step.failure compressed .opening fault)⟩
  | .ok after =>
      match medium step with
      | none => ⟨after, none⟩
      | some mishap =>
          ⟨step.stop directory mishap.left?,
            some (step.failure compressed mishap.stage mishap.fault)⟩

end Step

/-- The content of a file with a text, by its name compressed or not. -/
def contentOf (name text : String) : ByteArray :=
  if writesCompressed name then Gzip.compress text.toUTF8 else text.toUTF8

/-- The steps that save a text. The old file is copied first if it is wanted. -/
def saveSteps (name text : String) (copiesOld : Bool) : Except SaveFailure (List Step) :=
  let replacement :=
    [Step.write (temporary name) (contentOf name text), Step.rename (temporary name) name]
  if copiesOld then
    match backup? name with
    | some backup => .ok (.copy name backup :: replacement)
    | none => .error .invalidName
  else .ok replacement

/-- The steps are tried in order up to the first that fails. -/
def performAll (medium : Medium) (compressed : Bool) : List Step → Directory → Saved
  | [], directory => ⟨directory, none⟩
  | step :: rest, directory =>
      let tried := step.attempt medium compressed directory
      match tried.failure? with
      | none => performAll medium compressed rest tried.directory
      | some _ => tried

/-- A save on a medium. Only a file that is there is copied. -/
def saveOn (medium : Medium) (directory : Directory) (name : String) (collection : Collection)
    (backup : Bool) : Saved :=
  match saveSteps name collection.render (backup && directory.contains name) with
  | .ok steps => performAll medium (writesCompressed name) steps directory
  | .error failure => ⟨directory, some failure⟩

/-- A save that nothing stops but the directory itself. -/
def save (directory : Directory) (name : String) (collection : Collection) (backup : Bool) :
    Saved :=
  saveOn .sound directory name collection backup

end Graft.File
