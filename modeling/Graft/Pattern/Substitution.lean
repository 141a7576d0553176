/-
This file reads the texts that matches are replaced with. They may refer to the groups of a match.
-/

import Graft.Text

namespace Graft.Pattern

/-- A part of a replacement: a text, or the number or the name of a group. -/
inductive Piece where
  | text (characters : List Char)
  | number (number : Nat)
  | name (name : String)
  deriving DecidableEq, Repr

/-- The letters of a name that stands without braces. -/
def isReferenceLetter (character : Char) : Bool :=
  character.isAlphanum || character == '_'

/-- A reference that is a number is the number of a group. -/
def reference (name : List Char) : Piece :=
  match Text.signedPosition? name with
  | some number => .number number
  | none => .name (String.ofList name)

/-- The reference after a dollar sign and what follows it. In braces a name may hold anything. -/
def cutReference? (characters : List Char) : Option (Piece × List Char) :=
  match characters with
  | '{' :: rest => (Text.cut? '}' rest).map fun (name, after) => (reference name, after)
  | _ =>
      let name := characters.takeWhile isReferenceLetter
      if name.isEmpty then none
      else some (reference name, characters.dropWhile isReferenceLetter)

/-- The pieces of a replacement. Two dollar signs stand for one, and so does one that starts no
reference. -/
def readPieces : Nat → List Char → List Piece
  | 0, _ => []
  | _, [] => []
  | fuel + 1, '$' :: '$' :: rest => .text ['$'] :: readPieces fuel rest
  | fuel + 1, '$' :: rest =>
      match cutReference? rest with
      | some (piece, after) => piece :: readPieces fuel after
      | none => .text ['$'] :: readPieces fuel rest
  | fuel + 1, character :: rest => .text [character] :: readPieces fuel rest

def pieces (replacement : String) : List Piece :=
  readPieces (replacement.length + 1) replacement.toList

end Graft.Pattern
