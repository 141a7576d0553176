/-
This file reads documents of settings from text.
-/

import Graft.Toml.Bare

namespace Graft.Toml

/-- A reader takes characters from the front of a text. -/
abbrev Reader := StateT (List Char) Option

namespace Reader

def fail {A : Type} : Reader A := fun _ => none

def rest : Reader (List Char) := get

def drop (count : Nat) : Reader Unit := modify (List.drop count)

/-- The characters are taken if the text goes on with them. -/
def takeIf (wanted : String) : Reader Bool := do
  if wanted.toList.isPrefixOf (← rest) then
    drop wanted.length
    return true
  else return false

def expect (wanted : String) : Reader Unit := do
  if !(← takeIf wanted) then fail

def takeWhile (wanted : Char → Bool) : Reader (List Char) := do
  let characters ← rest
  set (characters.dropWhile wanted)
  return characters.takeWhile wanted

end Reader

open Reader

def isBlank (character : Char) : Bool := character == ' ' || character == '\t'

/-- The characters of comments and strings: no controls except the tab. -/
def isPlain (character : Char) : Bool :=
  character == '\t' || (0x20 ≤ character.toNat && character.toNat != 0x7F)

def skipBlanks : Reader Unit := do let _ ← takeWhile isBlank

def takeBreak : Reader Bool := do
  if ← takeIf "\n" then return true else takeIf "\r\n"

def skipComment : Reader Unit := do
  if ← takeIf "#" then let _ ← takeWhile isPlain

/-- A line ends after blanks and a comment. -/
def endLine : Reader Unit := do
  skipBlanks
  skipComment
  if !(← takeBreak) && !(← rest).isEmpty then fail

/-- Blanks, comments and breaks are skipped. -/
def skipLines : Nat → Reader Unit
  | 0 => return ()
  | fuel + 1 => do
      skipBlanks
      let commented := (← rest).head? == some '#'
      skipComment
      if ← takeBreak then skipLines fuel
      else if commented then fail

/-- The character of a code in hexadecimal digits. -/
def readCode (count : Nat) : Reader Char := do
  let digits := (← rest).take count
  drop count
  match if digits.length = count then Text.natural? 16 digits else none with
  | some code =>
      if code < 0x110000 ∧ ¬ (0xD800 ≤ code ∧ code < 0xE000) then return Char.ofNat code else fail
  | none => fail

/-- The character of an escape. -/
def readEscape : Reader Char := do
  let letter := (← rest).head?
  drop 1
  match letter with
  | some 'b' => return '\x08'
  | some 't' => return '\t'
  | some 'n' => return '\n'
  | some 'f' => return '\x0c'
  | some 'r' => return '\r'
  | some '"' => return '"'
  | some '\\' => return '\\'
  | some 'u' => readCode 4
  | some 'U' => readCode 8
  | _ => fail

/-- A string in one line up to its closing quote. -/
def readLine (quote : Char) : Nat → Reader (List Char)
  | 0 => fail
  | fuel + 1 => do
      match ← rest with
      | [] => fail
      | character :: _ =>
          drop 1
          if character = quote then return []
          else if character = '\\' ∧ quote = '"' then
            return (← readEscape) :: (← readLine quote fuel)
          else if isPlain character then return character :: (← readLine quote fuel)
          else fail

/-- A string in several lines up to its three closing quotes. Up to two more quotes before them
belong to the string. -/
def readLines (quote : Char) : Nat → Reader (List Char)
  | 0 => fail
  | fuel + 1 => do
      if ← takeBreak then return '\n' :: (← readLines quote fuel)
      let quotes := ((← rest).takeWhile (· == quote)).length
      if 3 ≤ quotes then
        drop (min quotes 5)
        return List.replicate (min quotes 5 - 3) quote
      match ← rest with
      | [] => fail
      | character :: after =>
          drop 1
          if character = '\\' ∧ quote = '"' then
            if after.head?.any fun next => isBlank next || next == '\n' || next == '\r' then
              skipBlanks
              if !(← takeBreak) then fail
              skipBreaks fuel
              readLines quote fuel
            else return (← readEscape) :: (← readLines quote fuel)
          else if isPlain character then return character :: (← readLines quote fuel)
          else fail
where
  /-- Breaks and blanks are skipped. -/
  skipBreaks : Nat → Reader Unit
    | 0 => return ()
    | fuel + 1 => do
        skipBlanks
        if ← takeBreak then skipBreaks fuel

/-- A string after its first quote. -/
def readString (quote : Char) : Reader String := do
  let fuel := (← rest).length + 1
  if ← takeIf (String.ofList [quote, quote, quote]) then
    let _ ← takeBreak
    return String.ofList (← readLines quote fuel)
  else
    drop 1
    return String.ofList (← readLine quote fuel)

def isKeyCharacter (character : Char) : Bool :=
  character.isAlphanum || character == '-' || character == '_'

/-- One name of a key; a quoted name stays in one line. -/
def readName : Reader String := do
  match (← rest).head? with
  | some '"' => drop 1; return String.ofList (← readLine '"' ((← rest).length + 1))
  | some '\'' => drop 1; return String.ofList (← readLine '\'' ((← rest).length + 1))
  | _ =>
      let name ← takeWhile isKeyCharacter
      if name.isEmpty then fail else return String.ofList name

/-- Values may be nested this deep, and keys may have this many names. -/
def depthLimit : Nat := 79

/-- The names of a key between points. The last one is on its own. -/
def readKey : Nat → Reader (List String × String)
  | 0 => fail
  | fuel + 1 => do
      skipBlanks
      let name ← readName
      skipBlanks
      if ← takeIf "." then
        let (names, last) ← readKey fuel
        return (name :: names, last)
      else return ([], name)

mutual

/-- A value that may be nested in others to some depth. -/
def readValue : Nat → Nat → Reader Value
  | 0, _ => fail
  | fuel + 1, depth => do
      match (← rest).head? with
      | some '"' => return .text (← readString '"')
      | some '\'' => return .text (← readString '\'')
      | some '[' =>
          if depth = 0 then fail
          drop 1
          readItems fuel (depth - 1)
          return .other
      | some '\x7b' =>
          if depth = 0 then fail
          drop 1
          skipBlanks
          if !(← takeIf "\x7d") then let _ ← readFields fuel (depth - 1) []
          return .other
      | _ =>
          match cutBare? (← rest) with
          | some (value, after) => set after; return value
          | none => fail

/-- The values of an array up to its closing bracket; a comma may follow the last one. -/
def readItems : Nat → Nat → Reader Unit
  | 0, _ => fail
  | fuel + 1, depth => do
      skipLines ((← rest).length + 1)
      if ← takeIf "]" then return ()
      let _ ← readValue fuel depth
      skipLines ((← rest).length + 1)
      if ← takeIf "," then readItems fuel depth else expect "]"

/-- The fields of a table in one line up to its closing brace; a comma separates two fields. -/
def readFields : Nat → Nat → Table → Reader Table
  | 0, _, _ => fail
  | fuel + 1, depth, table => do
      let (names, last) ← readKey depthLimit
      expect "="
      skipBlanks
      let value ← readValue fuel depth
      skipBlanks
      match defineAt last value names table with
      | none => fail
      | some table =>
          if ← takeIf "," then readFields fuel depth table
          else
            expect "\x7d"
            return table

end

/-- The document so far and the names of the table that is open. -/
structure Draft where
  root : Table
  path : List String

/-- A line with a header or a value. -/
def readStatement (draft : Draft) : Reader Draft := do
  let change (root : Option Table) (path : List String) : Reader Draft :=
    match root with
    | some root => return ⟨root, path⟩
    | none => fail
  if ← takeIf "[[" then
    let (names, last) ← readKey depthLimit
    expect "]]"
    change (changeAt (addTable last) names draft.root) (names ++ [last])
  else if ← takeIf "[" then
    let (names, last) ← readKey depthLimit
    expect "]"
    change (changeAt (openTable last) names draft.root) (names ++ [last])
  else
    let (names, last) ← readKey depthLimit
    expect "="
    skipBlanks
    let value ← readValue ((← rest).length + 1) depthLimit
    change (changeAt (defineAt last value names) draft.path draft.root) draft.path

/-- The lines of a document. -/
def readDocument : Nat → Draft → Reader Table
  | 0, _ => fail
  | fuel + 1, draft => do
      skipBlanks
      match (← rest).head? with
      | none => return draft.root
      | some character =>
          if character = '#' ∨ character = '\n' ∨ character = '\r' then
            endLine
            readDocument fuel draft
          else
            let draft ← readStatement draft
            endLine
            readDocument fuel draft

/-- The table of a document. A mark of the byte order may come first. -/
def parse? (text : String) : Option Table :=
  let characters := match text.toList with
    | '\ufeff' :: rest => rest
    | characters => characters
  (readDocument (characters.length + 1) ⟨[], []⟩).run' characters

end Graft.Toml
