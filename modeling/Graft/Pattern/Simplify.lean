/-
This file builds expressions in their simplest form. Expressions that differ only in how they were
written become the same.
-/

import Graft.Pattern.Expression

namespace Graft.Pattern.Expression

/-- A set with one character is that character. -/
def ofSet (members : CharacterSet) : Expression :=
  match members.ranges with
  | [(start, stop)] => if start = stop then .literal [Char.ofNat start] else .set members
  | _ => .set members

/-- A part in front of others. Literals that meet become one. -/
def precede : Expression → List Expression → List Expression
  | .literal first, .literal second :: rest => .literal (first ++ second) :: rest
  | part, rest => part :: rest

/-- The parts of an expression within a sequence. -/
def parts : Expression → List Expression
  | .nothing => []
  | .sequence parts => parts
  | part => [part]

/-- Expressions one after another. -/
def inSequence (expressions : List Expression) : Expression :=
  match (expressions.flatMap parts).foldr precede [] with
  | [] => .nothing
  | [part] => part
  | parts => .sequence parts

/-- The branches of an expression within a choice. -/
def branches : Expression → List Expression
  | .choice branches => branches
  | branch => [branch]

/-- The character that is all of an expression. -/
def character? : Expression → Option Char
  | .literal [character] => some character
  | _ => none

def members? : Expression → Option CharacterSet
  | .set members => some members
  | _ => none

/-- Branches that are all characters, or all sets, are one set. -/
def mergedBranches? (branches : List Expression) : Option Expression :=
  match branches.mapM character? with
  | some characters => some (ofSet (CharacterSet.ofChars characters))
  | none => (branches.mapM members?).map fun sets => ofSet (CharacterSet.unions sets)

/-- The parts with which two sequences begin. -/
def commonStart : List Expression → List Expression → List Expression
  | first :: rest, second :: others =>
      if first.same second then first :: commonStart rest others else []
  | _, _ => []

def sequenceParts? : Expression → Option (List Expression)
  | .sequence parts => some parts
  | _ => none

/-- The parts with which all branches begin, and what is left of the branches. -/
def sharedStart? (branches : List Expression) : Option (List Expression × List Expression) :=
  match branches.mapM sequenceParts? with
  | some (first :: others) =>
      let start := others.foldl commonStart first
      if start.isEmpty then none
      else some (start, (first :: others).map fun parts => inSequence (parts.drop start.length))
  | _ => none

/-- Branches without a part with which all of them begin. -/
def inPlainChoice (expressions : List Expression) : Expression :=
  match expressions.flatMap branches with
  | [] => .set .empty
  | [branch] => branch
  | branches => (mergedBranches? branches).getD (.choice branches)

/-- The first expression that matches counts. The parts with which all branches begin come in front
of the choice; what is left has no such parts any more. -/
def inChoice (expressions : List Expression) : Expression :=
  match inPlainChoice expressions with
  | .choice branches =>
      match sharedStart? branches with
      | some (start, rest) => inSequence (start ++ [inPlainChoice rest])
      | none => .choice branches
  | expression => expression

/-- An expression several times. What takes nothing is repeated at most once. -/
def inRepetition (body : Expression) (least : Nat) (most? : Option Nat) (greedy : Bool) :
    Expression :=
  let (least, most?) :=
    if body.takesNothing then (min least 1, some (min (most?.getD 1) 1)) else (least, most?)
  if most? = some 0 then .nothing
  else if least = 1 ∧ most? = some 1 then body
  else .repeated body least most? greedy

end Graft.Pattern.Expression
