/-
This file reads the arguments of the command line.
-/

import Graft.Text

namespace Graft.Command

/-- The files that a run is about, and whether it tells what it does. -/
structure Arguments where
  input? : Option String := none
  rules? : Option String := none
  output? : Option String := none
  verbose : Bool := false
  deriving DecidableEq, Repr

/-- What a command line asks for. -/
inductive Invocation where
  | run (arguments : Arguments)
  | help
  | version
  | misuse
  deriving DecidableEq, Repr

/-- The options that take a value. -/
inductive ValueOption where
  | rules
  | output
  deriving DecidableEq, Repr

namespace Arguments

/-- A value is given once and is not empty. -/
def once? (old : Option String) (value : String) : Option String :=
  if old.isSome ∨ value.isEmpty then none else some value

def setInput? (arguments : Arguments) (value : String) : Option Arguments :=
  (once? arguments.input? value).map fun value => { arguments with input? := value }

def set? (arguments : Arguments) (valueOption : ValueOption) (value : String) :
    Option Arguments :=
  match valueOption with
  | .rules => (once? arguments.rules? value).map fun value => { arguments with rules? := value }
  | .output =>
      (once? arguments.output? value).map fun value => { arguments with output? := value }

def setVerbose? (arguments : Arguments) : Option Arguments :=
  if arguments.verbose then none else some { arguments with verbose := true }

end Arguments

/-- What one argument leads to: the arguments so far, an option that waits for its value, or the
end. -/
inductive Progress where
  | done (arguments : Arguments)
  | waiting (arguments : Arguments) (valueOption : ValueOption)
  | ended (invocation : Invocation)

def Progress.ofOption : Option Arguments → Progress
  | some arguments => .done arguments
  | none => .ended .misuse

/-- Letters after one hyphen. The letter of an option with a value ends them, and the value may
follow at once, also after an equals sign. -/
def readLetters (arguments : Arguments) : List Char → Progress
  | [] => .done arguments
  | letter :: rest =>
      let value (valueOption : ValueOption) : Progress :=
        match rest with
        | [] => .waiting arguments valueOption
        | '=' :: value => .ofOption (arguments.set? valueOption (String.ofList value))
        | value => .ofOption (arguments.set? valueOption (String.ofList value))
      match letter with
      | 'c' => value .rules
      | 'o' => value .output
      | 'h' => .ended .help
      | 'V' => .ended .version
      | 'v' =>
          match arguments.setVerbose? with
          | some arguments => readLetters arguments rest
          | none => .ended .misuse
      | _ => .ended .misuse

/-- A word after two hyphens. A value may follow after an equals sign. -/
def readWord (arguments : Arguments) (word : List Char) : Progress :=
  let (name, value?) := match Text.cut? '=' word with
    | some (name, value) => (String.ofList name, some (String.ofList value))
    | none => (String.ofList word, none)
  let value (valueOption : ValueOption) : Progress :=
    match value? with
    | some value => .ofOption (arguments.set? valueOption value)
    | none => .waiting arguments valueOption
  match name, value? with
  | "config", _ => value .rules
  | "output", _ => value .output
  | "verbose", none => .ofOption arguments.setVerbose?
  | "help", none => .ended .help
  | "version", none => .ended .version
  | _, _ => .ended .misuse

/-- One argument where options are allowed. A hyphen alone is no option. -/
def readArgument (arguments : Arguments) (argument : String) : Progress :=
  match argument.toList with
  | '-' :: '-' :: word => readWord arguments word
  | '-' :: letter :: letters => readLetters arguments (letter :: letters)
  | _ => .ofOption (arguments.setInput? argument)

/-- Whether an argument is an option or the mark that ends the options. -/
def isOption (argument : String) : Bool :=
  match argument.toList with
  | '-' :: _ :: _ => true
  | _ => false

/-- After the mark no argument is an option. -/
def readPlain (arguments : Arguments) : List String → Invocation
  | [] => .run arguments
  | argument :: rest =>
      match arguments.setInput? argument with
      | some arguments => readPlain arguments rest
      | none => .misuse

def readAll (arguments : Arguments) (waiting? : Option ValueOption) : List String → Invocation
  | [] => if waiting?.isSome then .misuse else .run arguments
  | argument :: rest =>
      match waiting? with
      | some valueOption =>
          if isOption argument then .misuse
          else match arguments.set? valueOption argument with
            | some arguments => readAll arguments none rest
            | none => .misuse
      | none =>
          if argument = "--" then readPlain arguments rest
          else match readArgument arguments argument with
            | .done arguments => readAll arguments none rest
            | .waiting arguments valueOption => readAll arguments (some valueOption) rest
            | .ended invocation => invocation

def Invocation.ofList (arguments : List String) : Invocation := readAll {} none arguments

end Graft.Command
