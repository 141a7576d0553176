/-
This file reads expressions from the text of patterns.
-/

import Graft.Entries
import Graft.Pattern.Class
import Graft.Pattern.Layout
import Graft.Pattern.Simplify

namespace Graft.Pattern

open Reader

/-- A part of a sequence; flags that were set on their own cannot be repeated. -/
inductive Part where
  | expression (expression : Nested Expression)
  | flags

def Part.expression? : Part → Option Expression
  | .expression part => some part.value
  | .flags => none

def Part.depth : Part → Nat
  | .expression part => part.depth
  | .flags => 0

/-- The expression of parts in reverse order. -/
def sequenceOf (parts : List Part) : Nested Expression :=
  ⟨.inSequence (parts.reverse.filterMap Part.expression?), depthOfParts (parts.map Part.depth)⟩

/-- The expression of branches in reverse order. -/
def choiceOf (branches : List (Nested Expression)) : Nested Expression :=
  ⟨.inChoice (branches.reverse.map Nested.value), depthOfParts (branches.map Nested.depth)⟩

/-- A group without a number is its body. -/
def groupOf (number? : Option Nat) (body : Expression) : Expression :=
  match number? with
  | some number => .group number body
  | none => body

/-- The parts with the last one repeated. -/
def repeatLast (parts : List Part) (least : Nat) (most? : Option Nat) (greedy : Bool) :
    Except PatternFault (List Part) :=
  match parts with
  | .expression body :: others =>
      .ok (.expression ⟨.inRepetition body.value least most? greedy, body.depth + 1⟩ :: others)
  | _ => .error .badRepetition

/-- A question mark after a repetition asks for few rounds instead of many; a flag swaps the two. -/
def readGreed : Reader Bool := do
  let lazy ← takeIf "?"
  return lazy == (← flags).swapsGreed

/-- The bounds of a repetition in braces. -/
def readBounds : Reader (Nat × Option Nat) := do
  bumpAndSkip
  let least? ← readNumber?
  let required (number? : Option Nat) : Reader Nat :=
    match number? with
    | some number => return number
    | none => throw .badRepetition
  let bounds ← if (← next .badRepetition) = ',' then do
      bumpAndSkip
      let least ← required least?
      if (← next .badRepetition) = '}' then pure (least, none)
      else do
        let most ← required (← readNumber?)
        if most < least then throw .badRepetition
        pure (least, some most)
    else do
      let count ← required least?
      pure (count, some count)
  if (← next .badRepetition) != '}' then throw .badRepetition
  bumpAndSkip
  return bounds

/-- The name of a group up to the closing angle. It starts with a letter or an underscore. -/
def readName : Reader String := do
  match Text.cut? '>' (← rest) with
  | none => throw .badGroup
  | some (name, after) =>
      setRest after
      let isStart (character : Char) : Bool :=
        character == '_' || Character.alphabetic.contains character
      let isInner (character : Char) : Bool :=
        isStart character || character == '.' || character == '[' || character == ']' ||
          (Character.ofCategories ["Nd", "Nl", "No"]).contains character
      match name with
      | [] => throw .badGroup
      | first :: others =>
          if isStart first && others.all isInner then return String.ofList name
          else throw .badGroup

/-- The next group gets the next number. -/
def openGroup : Reader Nat := do
  let reading ← get
  let number := reading.groups + 1
  if 0x100000000 ≤ number then throw .tooLarge
  set { reading with groups := number }
  return number

def nameGroup (name : String) (number : Nat) : Reader Unit := do
  let reading ← get
  if (Entries.find? name reading.names).isSome then throw .duplicateName
  set { reading with names := reading.names ++ [(name, number)] }

/-- Texts that would look around a place are not patterns. -/
def looksAround (characters : List Char) : Bool :=
  ["?=", "?!", "?<=", "?<!"].any fun mark => mark.toList.isPrefixOf characters

/-- What an opening parenthesis starts. -/
inductive Opening where
  | group (number? : Option Nat) (flags : Flags)
  | flags (flags : Flags)

/-- The text after an opening parenthesis up to the body of the group. -/
def readOpening : Reader Opening := do
  bumpAndSkip
  if looksAround (← rest) then throw .badGroup
  if (← takeIf "?P<") || (← takeIf "?<") then
    let number ← openGroup
    nameGroup (← readName) number
    return .group (some number) (← flags)
  else if ← takeIf "?" then
    let start ← rest
    let changed ← readFlags (start.length + 1) [] (← flags)
    let last ← next .badGroup
    bump
    if last = ')' then
      if start.head? = some ')' then throw .badRepetition else return .flags changed
    else return .group none changed
  else return .group (some (← openGroup)) (← flags)

def setFlags (flags : Flags) : Reader Unit :=
  modify fun reading => { reading with flags := flags }

/-- A character matches itself, or all its cases if case is ignored. -/
def characterExpression (flags : Flags) (character : Char) : Expression :=
  let members := Character.foldCase (.singleton character)
  if !flags.ignoresCase then .literal [character]
  else if !flags.asciiOnly then .ofSet members
  else if character.toNat < 0x80 then .ofSet (members.intersection ⟨[(0, 0x7F)]⟩)
  else .literal [character]

/-- A point matches any character, or any but the breaks. -/
def dotSet (flags : Flags) : Except PatternFault CharacterSet :=
  if flags.asciiOnly then .error .beyondAscii
  else if flags.dotTakesBreaks then .ok .all
  else if flags.carriageReturns then .ok (CharacterSet.ofChars ['\n', '\r']).complement
  else .ok (CharacterSet.ofChars ['\n']).complement

/-- A single character or an escape. -/
def readPrimitive : Reader Expression := do
  let flags ← flags
  match ← next .badEscape with
  | '\\' =>
      match ← readEscape with
      | .literal character => return characterExpression flags character
      | .set members => return .ofSet members
      | .boundary boundary => return .boundary boundary
  | '.' =>
      bump
      return .ofSet (← dotSet flags)
  | '^' =>
      bump
      return .boundary (if flags.multiLine then .lineStart flags.carriageReturns else .textStart)
  | '$' =>
      bump
      return .boundary (if flags.multiLine then .lineStop flags.carriageReturns else .textStop)
  | character =>
      bump
      return characterExpression flags character

/-- The branches up to the end of the pattern or of the group that is open. The branches and the
parts of the current branch that were read before are in reverse order. -/
def readBranches :
    Nat → Bool → List (Nested Expression) → List Part → Reader (Nested Expression)
  | 0, _, _, _ => throw .tooLarge
  | fuel + 1, inGroup, branches, parts => do
      skip
      let goOn (part : Nested Expression) : Reader (Nested Expression) :=
        readBranches fuel inGroup branches (.expression part :: parts)
      let readRepeated (least : Nat) (most? : Option Nat) : Reader (Nested Expression) := do
        let greedy ← readGreed
        readBranches fuel inGroup branches (← repeatLast parts least most? greedy)
      match ← peek? with
      | none =>
          if inGroup then throw .unclosedGroup
          return choiceOf (sequenceOf parts :: branches)
      | some ')' =>
          if !inGroup then throw .unopenedGroup
          bump
          return choiceOf (sequenceOf parts :: branches)
      | some '|' =>
          bump
          readBranches fuel inGroup (sequenceOf parts :: branches) []
      | some '(' =>
          match ← readOpening with
          | .flags changed =>
              setFlags changed
              readBranches fuel inGroup branches (.flags :: parts)
          | .group number? inner =>
              let outer ← flags
              setFlags inner
              let body ← readBranches fuel true [] []
              setFlags outer
              goOn ⟨groupOf number? body.value, body.depth + 1⟩
      | some '[' =>
          let members ← readClass ((← rest).length + 1)
          goOn ⟨.ofSet members.value, members.depth⟩
      | some '?' =>
          bump
          readRepeated 0 (some 1)
      | some '*' =>
          bump
          readRepeated 0 none
      | some '+' =>
          bump
          readRepeated 1 none
      | some '\x7b' =>
          let (least, most?) ← readBounds
          readRepeated least most?
      | some _ => goOn ⟨← readPrimitive, 0⟩

/-- Expressions may be nested this deep. -/
def depthLimit : Nat := 250

/-- The expression of a pattern, with the numbers of the groups that have names. -/
def parseExpression (text : String) :
    Except PatternFault (Expression × List (String × Nat)) := do
  let characters := text.toList
  let (expression, reading) ←
    (readBranches (characters.length + 1) false [] []).run ⟨characters, {}, 0, []⟩
  if depthLimit < expression.depth then throw .tooDeep
  if isTooLarge expression.value then throw .tooLarge
  return (expression.value, reading.names)

end Graft.Pattern
