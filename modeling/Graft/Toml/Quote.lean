/-
This file writes strings of settings. A string is written with as few escapes as its characters
allow.
-/

import Graft.Text

namespace Graft.Toml

/-- The ways to write a string: with or without escapes, in one line or in several. -/
inductive Quoting where
  | basic
  | literal
  | longBasic
  | longLiteral
  deriving DecidableEq, Repr

/-- The length of the longest run of a character. -/
def longestRun (wanted : Char) (characters : List Char) : Nat :=
  let rec go (current longest : Nat) : List Char → Nat
    | [] => longest
    | character :: rest =>
        if character = wanted then go (current + 1) (max longest (current + 1)) rest
        else go 0 longest rest
  go 0 0 characters

/-- A control character that can only be written as an escape. -/
def isHidden (character : Char) : Bool :=
  (character.toNat < 0x20 && character != '\t' && character != '\n') || character.toNat == 0x7F

/-- The first way that needs no escapes; otherwise the one that fits the breaks. -/
def Quoting.of (characters : List Char) : Quoting :=
  let hidden := characters.any isHidden
  let escaped := hidden || characters.contains '\\'
  let broken := characters.contains '\n'
  let doubles := longestRun '"' characters
  let singles := longestRun '\'' characters
  if !escaped && doubles == 0 && !broken then .basic
  else if !hidden && singles == 0 && !broken then .literal
  else if !escaped && doubles ≤ 2 then .longBasic
  else if !hidden && singles ≤ 2 then .longLiteral
  else if broken then .longBasic
  else .basic

/-- Four hexadecimal digits. -/
def hexDigits (code : Nat) : List Char :=
  [code / 4096, code / 256, code / 16, code].map fun digit => (Nat.digitChar (digit % 16)).toUpper

/-- A character with the escape that it needs. -/
def escape (long : Bool) (character : Char) : List Char :=
  match character with
  | '\x08' => ['\\', 'b']
  | '\t' => ['\\', 't']
  | '\n' => if long then ['\n'] else ['\\', 'n']
  | '\x0c' => ['\\', 'f']
  | '\r' => ['\\', 'r']
  | '\\' => ['\\', '\\']
  | _ => if isHidden character then '\\' :: 'u' :: hexDigits character.toNat else [character]

/-- The characters with escapes. Of quotes in a row only as many stay as can stand in a string. -/
def escapeAll (long : Bool) : Nat → List Char → List Char
  | _, [] => []
  | quotes, character :: rest =>
      if character = '"' then
        if quotes < (if long then 2 else 0) then '"' :: escapeAll long (quotes + 1) rest
        else '\\' :: '"' :: escapeAll long 0 rest
      else escape long character ++ escapeAll long 0 rest

/-- A string in quotes. Several lines start after the opening quotes. -/
def quote (text : String) : String :=
  let characters := text.toList
  let start := if characters.contains '\n' then "\n" else ""
  match Quoting.of characters with
  | .basic => "\"" ++ String.ofList (escapeAll false 0 characters) ++ "\""
  | .literal => "'" ++ text ++ "'"
  | .longBasic =>
      "\"\"\"" ++ start ++ String.ofList (escapeAll true 0 characters) ++ "\"\"\""
  | .longLiteral => "'''" ++ start ++ text ++ "'''"

end Graft.Toml
