/-
This file names the faults that come from outside the rules of this library, and how a message
words them.
-/

import Graft.Yaml.Fault

namespace Graft

/-- What the system reports of a file operation that fails. -/
inductive SystemFault where
  | badName
  | notFound
  | notAFile
  | notADirectory
  | denied
  | full
  | broken
  | notText
  | notCompressed
  deriving DecidableEq, Repr

def SystemFault.message : SystemFault → String
  | .badName => "not a name of a file"
  | .notFound => "no such file or directory"
  | .notAFile => "not a file"
  | .notADirectory => "not a directory"
  | .denied => "permission denied"
  | .full => "no space left"
  | .broken => "input or output error"
  | .notText => "the content is not UTF-8"
  | .notCompressed => "the content is not gzip data"

/-- A text that is no pattern. -/
inductive PatternFault where
  | unclosedGroup
  | unopenedGroup
  | badGroup
  | duplicateName
  | unclosedClass
  | badClass
  | badRange
  | unknownClass
  | badEscape
  | badRepetition
  | badFlag
  | beyondAscii
  | tooDeep
  | tooLarge
  deriving DecidableEq, Repr

def PatternFault.message : PatternFault → String
  | .unclosedGroup => "unclosed group"
  | .unopenedGroup => "unopened group"
  | .badGroup => "malformed group"
  | .duplicateName => "duplicate group name"
  | .unclosedClass => "unclosed character class"
  | .badClass => "malformed character class"
  | .badRange => "invalid range"
  | .unknownClass => "unknown character class"
  | .badEscape => "unrecognised escape"
  | .badRepetition => "malformed repetition"
  | .badFlag => "malformed flag"
  | .beyondAscii => "the pattern goes beyond ASCII"
  | .tooDeep => "the pattern is nested too deeply"
  | .tooLarge => "the pattern is too large"

/-- The words for the faults of documents, patterns and files. -/
structure Wording where
  document : Yaml.Fault → String
  pattern : PatternFault → String
  system : SystemFault → String

/-- The words for a text that is not one document. -/
def Wording.singleDocument (wording : Wording) (fault : Yaml.Fault) : String :=
  "Failed to parse YAML: " ++ wording.document fault

def Wording.standard : Wording :=
  ⟨Yaml.Fault.message, PatternFault.message, SystemFault.message⟩

end Graft
