/-
This file defines patterns, which find parts of texts and replace them.
-/

import Graft.Entries
import Graft.Pattern.Parse
import Graft.Pattern.Search
import Graft.Pattern.Substitution

namespace Graft

/-- A pattern keeps the text that it was read from and the numbers of its named groups. -/
structure Pattern where
  source : String
  program : Pattern.Program
  names : List (String × Nat)

namespace Pattern

def parse (text : String) : Except PatternFault Pattern := do
  let (expression, names) ← parseExpression text
  return ⟨text, Program.ofExpression expression, names⟩

/-- The matches of a pattern in a text, none of which overlap. -/
def matchesIn (pattern : Pattern) (text : Array Char) : List Match :=
  matchesFrom pattern.program text (text.size + 2) none

def isMatch (pattern : Pattern) (text : String) : Bool :=
  (find? pattern.program text.toList.toArray 0).isSome

/-- The characters between two positions. -/
def slice (text : Array Char) (start stop : Nat) : List Char :=
  (text.extract start stop).toList

/-- The text of a piece. A group that is not there or has not matched gives no text. -/
def pieceText (pattern : Pattern) (text : Array Char) (found : Match) (piece : Piece) :
    List Char :=
  let group (number : Nat) : List Char :=
    match found.group? number with
    | some (start, stop) => slice text start stop
    | none => []
  match piece with
  | .text characters => characters
  | .number number => group number
  | .name name => ((Entries.find? name pattern.names).map group).getD []

/-- The text from a position on, with the matches replaced. -/
def replaceFrom (pattern : Pattern) (text : Array Char) (replacement : List Piece)
    (position : Nat) : List Match → List Char
  | [] => slice text position text.size
  | found :: rest =>
      slice text position found.start ++ replacement.flatMap (pattern.pieceText text found) ++
        pattern.replaceFrom text replacement found.stop rest

/-- All matches are replaced. -/
def replaceAll (pattern : Pattern) (text replacement : String) : String :=
  let characters := text.toList.toArray
  String.ofList
    (pattern.replaceFrom characters (pieces replacement) 0 (pattern.matchesIn characters))

end Pattern

end Graft
