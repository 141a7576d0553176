/-
This file reads conditions and sets of labels from text.
-/

import Graft.Label

namespace Graft.Label

/-- Why a text is no condition. -/
inductive ConditionFault where
  | nestedParenthesis
  | unbalancedParenthesis
  | unclosedParenthesis
  | unknownForm (part : String)
  deriving DecidableEq, Repr

def ConditionFault.message : ConditionFault → String
  | .nestedParenthesis => "nested '('"
  | .unbalancedParenthesis => "unbalanced ')'"
  | .unclosedParenthesis => "unclosed '('"
  | .unknownForm part => "cannot parse '" ++ part ++ "'"

/-- The parts between the commas that stand outside parentheses. -/
def splitParts : Bool → List Char → Except ConditionFault (List (List Char))
  | true, [] => .error .unclosedParenthesis
  | false, [] => .ok [[]]
  | inside, character :: rest =>
      let extended (parts : List (List Char)) : List (List Char) :=
        match parts with
        | [] => [[character]]
        | part :: others => (character :: part) :: others
      if character = '(' then
        if inside then .error .nestedParenthesis else (splitParts true rest).map extended
      else if character = ')' then
        if inside then (splitParts false rest).map extended else .error .unbalancedParenthesis
      else if character = ',' ∧ inside = false then (splitParts false rest).map ([] :: ·)
      else (splitParts inside rest).map extended

/-- The characters of a value: ASCII letters and digits and three marks. -/
def isValueCharacter (character : Char) : Bool :=
  character.isAlphanum || character == '-' || character == '_' || character == '.'

/-- A key may also hold slashes. -/
def isKeyCharacter (character : Char) : Bool :=
  isValueCharacter character || character == '/'

/-- A key starts with a letter or a digit. -/
def isKey : List Char → Bool
  | [] => false
  | first :: rest => first.isAlphanum && rest.all isKeyCharacter

def isValue (characters : List Char) : Bool := characters.all isValueCharacter

/-- The key at the start of a text, and what follows it. -/
def cutKey (characters : List Char) : List Char × List Char :=
  (characters.takeWhile isKeyCharacter, characters.dropWhile isKeyCharacter)

/-- What follows a word at the start of a text. -/
def afterWord? (word : String) (characters : List Char) : Option (List Char) :=
  if word.toList.isPrefixOf characters then some (characters.drop word.length) else none

/-- The values in a pair of parentheses; the empty ones are left out. -/
def listed? (characters : List Char) : Option (List String) :=
  match characters.dropWhile Text.isBlank with
  | '(' :: rest =>
      match rest.reverse with
      | ')' :: body =>
          if body.any fun character => character == '(' || character == ')' then none
          else
            let values := ((Text.pieces ',' body.reverse).map Text.trim).filter (!·.isEmpty)
            if values.all isValue then some (values.map String.ofList) else none
      | _ => none
  | _ => none

/-- A requirement on the values that a label may or may not have. -/
def parseSet? (characters : List Char) : Option Requirement :=
  let (key, rest) := cutKey characters
  let name := String.ofList key
  if !isKey key || !rest.head?.any Text.isBlank then none
  else
    let rest := rest.dropWhile Text.isBlank
    match afterWord? "in" rest with
    | some rest => (listed? rest).map (.among name)
    | none =>
        match afterWord? "notin" rest with
        | some rest => (listed? rest).map (.notAmong name)
        | none => none

/-- The operator of an equality, whether it is negative, and the value after it. -/
def cutOperator? : List Char → Option (Bool × List Char)
  | '=' :: '=' :: rest => some (false, rest)
  | '!' :: '=' :: rest => some (true, rest)
  | '=' :: rest => some (false, rest)
  | _ => none

def parseEquality? (characters : List Char) : Option Requirement :=
  let (key, rest) := cutKey characters
  let name := String.ofList key
  match cutOperator? (rest.dropWhile Text.isBlank) with
  | some (negative, rest) =>
      let value := rest.dropWhile Text.isBlank
      let written := String.ofList value
      if isKey key && isValue value then
        some (if negative then .differs name written else .equals name written)
      else none
  | none => none

def parsePresence? : List Char → Option Requirement
  | '!' :: rest =>
      let key := rest.dropWhile Text.isBlank
      if isKey key then some (.absent (String.ofList key)) else none
  | characters =>
      let key := characters.dropWhile Text.isBlank
      if isKey key then some (.present (String.ofList key)) else none

def parseRequirement? (characters : List Char) : Option Requirement :=
  ((parseSet? characters).or (parseEquality? characters)).or (parsePresence? characters)

/-- The requirements of the parts that are not blank. -/
def parseParts : List (List Char) → Except ConditionFault (List Requirement)
  | [] => .ok []
  | part :: rest =>
      let trimmed := Text.trim part
      if trimmed.isEmpty then parseParts rest
      else match parseRequirement? trimmed with
        | some requirement => (parseParts rest).map (requirement :: ·)
        | none => .error (.unknownForm (String.ofList trimmed))

def parseCondition (text : String) : Except ConditionFault Condition := do
  return ⟨← parseParts (← splitParts false text.toList)⟩

/-- Why a text or a node is no set of labels. -/
inductive LabelSetFault where
  | noPair (pair : String)
  | emptyKey (pair : String)
  | sequence
  deriving DecidableEq, Repr

def LabelSetFault.message : LabelSetFault → String
  | .noPair pair => "'" ++ pair ++ "' is not a key=value pair"
  | .emptyKey pair => "empty key in '" ++ pair ++ "'"
  | .sequence => "expected a mapping or a key=value string"

/-- One pair of a set, split at the first equals sign. -/
def parsePair (pair : List Char) : Except LabelSetFault (String × String) :=
  match Text.cut? '=' pair with
  | none => .error (.noPair (String.ofList pair))
  | some (key, value) =>
      let key := Text.trim key
      if key.isEmpty then .error (.emptyKey (String.ofList pair))
      else .ok (String.ofList key, String.ofList (Text.trim value))

/-- The pairs of a set in order; blank parts are left out. -/
def parsePairs : List (List Char) → Except LabelSetFault (List (String × String))
  | [] => .ok []
  | part :: rest =>
      let pair := Text.trim part
      if pair.isEmpty then parsePairs rest
      else do
        let first ← parsePair pair
        return first :: (← parsePairs rest)

def parseLabelSet (text : String) : Except LabelSetFault LabelSet :=
  (parsePairs (Text.pieces ',' text.toList)).map Entries.ofPairs

end Graft.Label
