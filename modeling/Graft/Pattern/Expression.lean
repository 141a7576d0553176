/-
This file defines the expressions that patterns denote.
-/

import Graft.Character.Derived

namespace Graft.Pattern

/-- How the characters on the two sides of a position differ in being part of a word. -/
inductive WordEdge where
  | either
  | neither
  | start
  | stop
  | startHalf
  | stopHalf
  deriving DecidableEq, Repr

/-- A boundary holds at a position of a text and takes no character. -/
inductive Boundary where
  | textStart
  | textStop
  | lineStart (carriageReturns : Bool)
  | lineStop (carriageReturns : Bool)
  | word (edge : WordEdge) (asciiOnly : Bool)
  deriving DecidableEq, Repr

/-- An expression matches parts of texts. A group with a number remembers what it matched. -/
inductive Expression where
  | nothing
  | literal (characters : List Char)
  | set (members : CharacterSet)
  | boundary (boundary : Boundary)
  | group (number : Nat) (body : Expression)
  | sequence (parts : List Expression)
  | choice (branches : List Expression)
  | repeated (body : Expression) (least : Nat) (most? : Option Nat) (greedy : Bool)
  deriving Repr

/-- The characters of words: letters, marks, decimal digits, connectors and two joiners. -/
def wordCharacters : CharacterSet :=
  CharacterSet.unions [Character.alphabetic, Character.ofCategories ["Mn", "Mc", "Me", "Nd", "Pc"],
    ⟨[(0x200C, 0x200D)]⟩]

def asciiWordCharacters : CharacterSet :=
  ⟨[(0x30, 0x39), (0x41, 0x5A), (0x5F, 0x5F), (0x61, 0x7A)]⟩

namespace WordEdge

def holds (before after : Bool) : WordEdge → Bool
  | .either => before != after
  | .neither => before == after
  | .start => !before && after
  | .stop => before && !after
  | .startHalf => !before
  | .stopHalf => !after

end WordEdge

/-- Whether a boundary holds between two characters; at the ends of a text one is missing. -/
def Boundary.holds (before after : Option Char) : Boundary → Bool
  | .textStart => before.isNone
  | .textStop => after.isNone
  | .lineStart false => before.isNone || before == some '\n'
  | .lineStart true =>
      before.isNone || before == some '\n' || (before == some '\r' && after != some '\n')
  | .lineStop false => after.isNone || after == some '\n'
  | .lineStop true =>
      after.isNone || after == some '\r' || (after == some '\n' && before != some '\r')
  | .word edge asciiOnly =>
      let members := if asciiOnly then asciiWordCharacters else wordCharacters
      edge.holds (before.any members.contains) (after.any members.contains)

namespace Expression

mutual

/-- The least count of characters that an expression takes, or nothing if a part of it may match
nowhere. -/
def leastLength? : Expression → Option Nat
  | .nothing => some 0
  | .literal characters => some characters.length
  | .set members => if members.isEmpty then none else some 1
  | .boundary _ => some 0
  | .group _ body => leastLength? body
  | .sequence parts => leastLengthOfAll? parts
  | .choice branches => leastLengthOfAny? branches
  | .repeated body least _ _ => (leastLength? body).map (least * ·)

def leastLengthOfAll? : List Expression → Option Nat
  | [] => some 0
  | part :: rest => do return (← leastLength? part) + (← leastLengthOfAll? rest)

def leastLengthOfAny? : List Expression → Option Nat
  | [] => none
  | [branch] => leastLength? branch
  | branch :: rest => do return min (← leastLength? branch) (← leastLengthOfAny? rest)

end

/-- Whether an expression surely takes a character wherever it matches. -/
def takesSomething (expression : Expression) : Bool :=
  expression.leastLength?.any (0 < ·)

mutual

/-- Whether an expression never takes a character. -/
def takesNothing : Expression → Bool
  | .nothing => true
  | .literal characters => characters.isEmpty
  | .set _ => false
  | .boundary _ => true
  | .group _ body => takesNothing body
  | .sequence parts => allTakeNothing parts
  | .choice branches => allTakeNothing branches
  | .repeated body _ most? _ => most?.isSome && takesNothing body

def allTakeNothing : List Expression → Bool
  | [] => true
  | part :: rest => takesNothing part && allTakeNothing rest

end

mutual

/-- Whether a match must begin where a boundary holds. -/
def beginsWith (boundary : Boundary) : Expression → Bool
  | .boundary own => own == boundary
  | .group _ body => beginsWith boundary body
  | .sequence parts => sequenceBeginsWith boundary parts
  | .choice branches => choiceBeginsWith boundary branches
  | .repeated body least _ _ => 0 < least && beginsWith boundary body
  | _ => false

/-- Parts that take nothing leave the beginning to the next part. -/
def sequenceBeginsWith (boundary : Boundary) : List Expression → Bool
  | [] => false
  | part :: rest =>
      beginsWith boundary part || (takesNothing part && sequenceBeginsWith boundary rest)

def choiceBeginsWith (boundary : Boundary) : List Expression → Bool
  | [] => true
  | branch :: rest => beginsWith boundary branch && choiceBeginsWith boundary rest

end

mutual

/-- Whether a match must end where a boundary holds. -/
def endsWith (boundary : Boundary) : Expression → Bool
  | .boundary own => own == boundary
  | .group _ body => endsWith boundary body
  | .sequence parts => sequenceEndsWith boundary parts
  | .choice branches => choiceEndsWith boundary branches
  | .repeated body least _ _ => 0 < least && endsWith boundary body
  | _ => false

/-- Parts that take nothing leave the end to the part before. -/
def sequenceEndsWith (boundary : Boundary) : List Expression → Bool
  | [] => false
  | part :: rest =>
      sequenceEndsWith boundary rest || (allTakeNothing rest && endsWith boundary part)

def choiceEndsWith (boundary : Boundary) : List Expression → Bool
  | [] => true
  | branch :: rest => endsWith boundary branch && choiceEndsWith boundary rest

end

mutual

/-- Whether two expressions are the same. -/
def same : Expression → Expression → Bool
  | .nothing, .nothing => true
  | .literal first, .literal second => first == second
  | .set first, .set second => first == second
  | .boundary first, .boundary second => first == second
  | .group first body, .group second other => first == second && same body other
  | .sequence first, .sequence second => sameAll first second
  | .choice first, .choice second => sameAll first second
  | .repeated body least most? greedy, .repeated other otherLeast otherMost? otherGreedy =>
      least == otherLeast && most? == otherMost? && greedy == otherGreedy && same body other
  | _, _ => false

def sameAll : List Expression → List Expression → Bool
  | [], [] => true
  | part :: rest, other :: others => same part other && sameAll rest others
  | _, _ => false

end

end Expression

end Graft.Pattern
