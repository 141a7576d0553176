/-
This file reads the smallest parts of patterns: flags, numbers and escapes.
-/

import Graft.Character.Age
import Graft.Character.Fold
import Graft.Character.GraphemeBreak
import Graft.Character.ScriptExtension
import Graft.Character.SentenceBreak
import Graft.Pattern.Expression
import Graft.Wording

namespace Graft.Pattern

/-- The flags that hold at a place of a pattern. -/
structure Flags where
  ignoresCase : Bool := false
  multiLine : Bool := false
  dotTakesBreaks : Bool := false
  swapsGreed : Bool := false
  asciiOnly : Bool := false
  carriageReturns : Bool := false
  verbose : Bool := false
  deriving DecidableEq, Repr

/-- The rest of a pattern, the flags that hold there, and the groups that were opened before. -/
structure Reading where
  rest : List Char
  flags : Flags
  groups : Nat
  names : List (String × Nat)

abbrev Reader := StateT Reading (Except PatternFault)

/-- What was read, and how deeply the text of it is nested. -/
structure Nested (α : Type) where
  value : α
  depth : Nat

/-- Two or more parts are one level above the deepest of them. -/
def depthOfParts : List Nat → Nat
  | [] => 0
  | [depth] => depth
  | depths => depths.foldl max 0 + 1

/-- The characters after blanks and comments. A comment ends with its line. -/
def skipBlanks (inComment : Bool) : List Char → List Char
  | [] => []
  | character :: rest =>
      if inComment then skipBlanks (character != '\n') rest
      else if Text.isBlank character then skipBlanks false rest
      else if character = '#' then skipBlanks true rest
      else character :: rest

namespace Reader

def rest : Reader (List Char) := return (← get).rest

def flags : Reader Flags := return (← get).flags

def peek? : Reader (Option Char) := return (← rest).head?

def setRest (characters : List Char) : Reader Unit :=
  modify fun reading => { reading with rest := characters }

/-- Blanks and comments are only skipped in verbose patterns. -/
def skip : Reader Unit := do
  if (← flags).verbose then setRest (skipBlanks false (← rest))

def bump : Reader Unit := do setRest (← rest).tail

def bumpAndSkip : Reader Unit := do
  bump
  skip

/-- The characters are taken if the pattern goes on with them. -/
def takeIf (wanted : String) : Reader Bool := do
  if wanted.toList.isPrefixOf (← rest) then
    setRest ((← rest).drop wanted.length)
    return true
  else return false

/-- The next character, which must be there. -/
def next (fault : PatternFault) : Reader Char := do
  match ← peek? with
  | some character => return character
  | none => throw fault

end Reader

open Reader

/-- What an escape stands for. -/
inductive Escape where
  | literal (character : Char)
  | set (members : CharacterSet)
  | boundary (boundary : Boundary)

/-- The sets of `\d`, `\s` and `\w`. -/
def classSet (asciiOnly : Bool) (letter : Char) : CharacterSet :=
  if letter = 'd' then
    if asciiOnly then ⟨[(0x30, 0x39)]⟩ else Character.ofCategories ["Nd"]
  else if letter = 's' then
    if asciiOnly then ⟨[(0x9, 0xD), (0x20, 0x20)]⟩
    else Character.whiteSpace
  else if asciiOnly then asciiWordCharacters else wordCharacters

/-- The set with both cases of its letters if case is ignored, or what lies outside of it. Without
Unicode a set must not reach beyond ASCII. -/
def finishSet (flags : Flags) (negated : Bool) (members : CharacterSet) :
    Except PatternFault CharacterSet :=
  if flags.asciiOnly then
    if negated then .error .beyondAscii
    else if flags.ignoresCase then
      .ok ((Character.foldCase members).intersection ⟨[(0, 0x7F)]⟩)
    else .ok members
  else
    let members := if flags.ignoresCase then Character.foldCase members else members
    .ok (if negated then members.complement else members)

/-- Names of properties are compared without case, blanks, hyphens, underscores and a leading
`is`. -/
def looseName (name : List Char) : String :=
  let kept (characters : List Char) : List Char :=
    (characters.filter fun character =>
      character != ' ' && character != '_' && character != '-' && character.toNat < 0x80).map
        Char.toLower
  match name with
  | first :: second :: others =>
      if first.toLower = 'i' ∧ second.toLower = 's' then
        let short := kept others
        if short = ['c'] then "isc" else String.ofList short
      else String.ofList (kept name)
  | _ => String.ofList (kept name)

/-- The characters with a property, in a general category or in a script. -/
def namedSet? (name : List Char) : Option CharacterSet :=
  let name := looseName name
  ((Character.property? name).or (Character.category? name)).or (Character.script? name)

/-- The characters for which a property has a value. -/
def valueSet? (property value : List Char) : Option CharacterSet :=
  let value := looseName value
  match looseName property with
  | "gc" | "generalcategory" => Character.category? value
  | "sc" | "script" => Character.script? value
  | "scx" | "scriptextensions" => Character.scriptExtension? value
  | "age" => Character.age? value
  | "gcb" | "graphemeclusterbreak" => Character.graphemeBreak? value
  | "wb" | "wordbreak" => Character.wordBreak? value
  | "sb" | "sentencebreak" => Character.sentenceBreak? value
  | _ => none

/-- The text before and after two characters in a row. -/
def cutPair? (first second : Char) : List Char → Option (List Char × List Char)
  | [] => none
  | character :: others =>
      if character = first ∧ others.head? = some second then some ([], others.tail)
      else (cutPair? first second others).map fun (before, after) => (character :: before, after)

/-- The set of a property in braces, and whether it is turned around by `!=`. -/
def propertySet? (name : List Char) : Option (CharacterSet × Bool) :=
  match cutPair? '!' '=' name with
  | some (property, value) => (valueSet? property value).map fun members => (members, true)
  | none =>
      match (Text.cut? ':' name).or (Text.cut? '=' name) with
      | some (property, value) => (valueSet? property value).map fun members => (members, false)
      | none => (namedSet? name).map fun members => (members, false)

/-- The character of a code in hexadecimal digits. -/
def codeCharacter (digits : List Char) : Except PatternFault Char :=
  match Text.natural? 16 digits with
  | some code =>
      if code < 0x110000 ∧ ¬ (0xD800 ≤ code ∧ code < 0xE000) then .ok (Char.ofNat code)
      else .error .badEscape
  | none => .error .badEscape

/-- The characters up to a closing brace. -/
def readBraced (fault : PatternFault) : Nat → Reader (List Char)
  | 0 => throw fault
  | fuel + 1 => do
      let character ← next fault
      if character = '}' then return []
      bumpAndSkip
      return character :: (← readBraced fault fuel)

def readDigits : Nat → Reader (List Char)
  | 0 => return []
  | count + 1 => do
      let character ← next .badEscape
      if !Text.isHexDigit character then throw .badEscape
      bumpAndSkip
      return character :: (← readDigits count)

/-- A code has a fixed count of digits or any count in braces. -/
def readCode (count : Nat) : Reader Char := do
  bumpAndSkip
  if (← next .badEscape) = '{' then
    bumpAndSkip
    let digits ← readBraced .badEscape ((← rest).length + 1)
    bumpAndSkip
    codeCharacter digits
  else
    let character ← codeCharacter (← readDigits count)
    if count = 2 ∧ 0x80 ≤ character.toNat ∧ (← flags).asciiOnly then throw .beyondAscii
    return character

/-- A property has a name of one letter or a name in braces. -/
def readProperty (negated : Bool) : Reader CharacterSet := do
  bumpAndSkip
  let first ← next .badEscape
  let name ← if first = '{' then do
      bumpAndSkip
      let name ← readBraced .badEscape ((← rest).length + 1)
      bump
      pure name
    else if first = '\\' then throw .badEscape
    else do
      bumpAndSkip
      pure [first]
  if (← flags).asciiOnly then throw .beyondAscii
  match propertySet? name with
  | some (members, turned) => finishSet (← flags) (negated != turned) members
  | none => throw .unknownClass

/-- A word boundary may be followed by its kind in braces. Other braces are a repetition. -/
def readWordEdge : Reader WordEdge := do
  let isNameCharacter (character : Char) : Bool := character.isAlpha || character == '-'
  let start ← rest
  if start.head? != some '{' then return .either
  bumpAndSkip
  if !isNameCharacter (← next .badRepetition) then
    setRest start
    return .either
  let name ← readBraced .badEscape ((← rest).length + 1)
  bump
  match String.ofList name with
  | "start" => return .start
  | "end" => return .stop
  | "start-half" => return .startHalf
  | "end-half" => return .stopHalf
  | _ => throw .badEscape

/-- The escapes of control characters. -/
def controlCharacter? (letter : Char) : Option Char :=
  match letter with
  | 'a' => some '\x07'
  | 'f' => some '\x0c'
  | 't' => some '\t'
  | 'n' => some '\n'
  | 'r' => some '\r'
  | 'v' => some '\x0b'
  | _ => none

/-- An ASCII character that is neither a letter nor a digit may be escaped, but for the angles. -/
def isEscapable (character : Char) : Bool :=
  character.toNat < 0x80 && !character.isAlphanum && character != '<' && character != '>'

/-- What follows a backslash. -/
def readEscape : Reader Escape := do
  bump
  let letter ← next .badEscape
  let asciiOnly := (← flags).asciiOnly
  let edge (kind : WordEdge) : Escape := .boundary (.word kind asciiOnly)
  if Text.isDigit letter then throw .badEscape
  else if letter = 'x' then return .literal (← readCode 2)
  else if letter = 'u' then return .literal (← readCode 4)
  else if letter = 'U' then return .literal (← readCode 8)
  else if letter = 'p' then return .set (← readProperty false)
  else if letter = 'P' then return .set (← readProperty true)
  else
    bump
    if letter = 'd' ∨ letter = 's' ∨ letter = 'w' then return .set (classSet asciiOnly letter)
    else if letter = 'D' ∨ letter = 'S' ∨ letter = 'W' then
      if asciiOnly then throw .beyondAscii
      return .set (classSet asciiOnly letter.toLower).complement
    else if isEscapable letter then return .literal letter
    else if letter = 'A' then return .boundary .textStart
    else if letter = 'z' then return .boundary .textStop
    else if letter = 'b' then return edge (← readWordEdge)
    else if letter = 'B' then return edge .neither
    else if letter = '<' then return edge .start
    else if letter = '>' then return edge .stop
    else match controlCharacter? letter with
      | some character => return .literal character
      | none => throw .badEscape

/-- A number in decimal digits that fits 32 bits, or nothing where there is no digit. Blanks may
stand around it. -/
def readNumber? : Reader (Option Nat) := do
  setRest ((← rest).dropWhile Text.isBlank)
  let digits ← readRun ((← rest).length + 1)
  setRest ((← rest).dropWhile Text.isBlank)
  skip
  match Text.natural? 10 digits with
  | some value => if value < 0x100000000 then return some value else throw .badRepetition
  | none => return none
where
  readRun : Nat → Reader (List Char)
    | 0 => return []
    | fuel + 1 => do
        match ← peek? with
        | some character =>
            if Text.isDigit character then
              bumpAndSkip
              return character :: (← readRun fuel)
            else return []
        | none => return []

/-- One flag is set to a state. -/
def setFlag (flags : Flags) (letter : Char) (state : Bool) : Except PatternFault Flags :=
  match letter with
  | 'i' => .ok { flags with ignoresCase := state }
  | 'm' => .ok { flags with multiLine := state }
  | 's' => .ok { flags with dotTakesBreaks := state }
  | 'U' => .ok { flags with swapsGreed := state }
  | 'u' => .ok { flags with asciiOnly := !state }
  | 'R' => .ok { flags with carriageReturns := state }
  | 'x' => .ok { flags with verbose := state }
  | _ => .error .badFlag

/-- The flags up to a colon or a closing parenthesis, which stays. No letter may come twice, and
a minus sign must be followed by a flag. -/
def readFlags : Nat → List Char → Flags → Reader Flags
  | 0, _, _ => throw .badFlag
  | fuel + 1, seen, flags => do
      let letter ← next .badFlag
      if letter = ':' ∨ letter = ')' then
        if seen.head? = some '-' then throw .badFlag else return flags
      if seen.contains letter then throw .badFlag
      bump
      if letter = '-' then readFlags fuel (letter :: seen) flags
      else readFlags fuel (letter :: seen) (← setFlag flags letter (!seen.contains '-'))

end Graft.Pattern
