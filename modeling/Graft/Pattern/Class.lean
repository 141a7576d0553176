/-
This file reads bracketed classes of characters.
-/

import Graft.Pattern.Reader

namespace Graft.Pattern

open Reader

/-- How two sets in one class are combined. -/
inductive SetOperator where
  | intersection
  | difference
  | symmetricDifference
  deriving DecidableEq, Repr

/-- Case is dealt with on both sides before they are combined. -/
def SetOperator.apply (flags : Flags) (operator : SetOperator) (first second : CharacterSet) :
    Except PatternFault CharacterSet := do
  let first ← finishSet flags false first
  let second ← finishSet flags false second
  return match operator with
    | .intersection => first.intersection second
    | .difference => first.difference second
    | .symmetricDifference => first.symmetricDifference second

/-- The members of a class up to a place, and how deeply each of them is nested. -/
structure Members where
  set : CharacterSet := .empty
  depths : List Nat := []

def Members.add (members : Members) (member : Nested CharacterSet) : Members :=
  ⟨members.set.union member.value, member.depth :: members.depths⟩

/-- The part of a class in front of an operator. -/
abbrev LeftSide := Option (SetOperator × Nested CharacterSet)

def combine (flags : Flags) (left : LeftSide) (members : Members) :
    Except PatternFault (Nested CharacterSet) :=
  let right : Nested CharacterSet := ⟨members.set, depthOfParts members.depths⟩
  match left with
  | some (operator, left) => do
      return ⟨← operator.apply flags left.value right.value, max left.depth right.depth + 1⟩
  | none => .ok right

/-- The classes with names. -/
def namedClass? (name : String) : Option CharacterSet :=
  match name with
  | "alnum" => some ⟨[(0x30, 0x39), (0x41, 0x5A), (0x61, 0x7A)]⟩
  | "alpha" => some ⟨[(0x41, 0x5A), (0x61, 0x7A)]⟩
  | "ascii" => some ⟨[(0, 0x7F)]⟩
  | "blank" => some ⟨[(0x9, 0x9), (0x20, 0x20)]⟩
  | "cntrl" => some ⟨[(0, 0x1F), (0x7F, 0x7F)]⟩
  | "digit" => some ⟨[(0x30, 0x39)]⟩
  | "graph" => some ⟨[(0x21, 0x7E)]⟩
  | "lower" => some ⟨[(0x61, 0x7A)]⟩
  | "print" => some ⟨[(0x20, 0x7E)]⟩
  | "punct" => some ⟨[(0x21, 0x2F), (0x3A, 0x40), (0x5B, 0x60), (0x7B, 0x7E)]⟩
  | "space" => some ⟨[(0x9, 0xD), (0x20, 0x20)]⟩
  | "upper" => some ⟨[(0x41, 0x5A)]⟩
  | "word" => some asciiWordCharacters
  | "xdigit" => some ⟨[(0x30, 0x39), (0x41, 0x46), (0x61, 0x66)]⟩
  | _ => none

/-- A class with a name, such as `[:alpha:]`, whether it is negated, and what follows it. -/
def cutNamedClass? (characters : List Char) : Option (CharacterSet × Bool × List Char) :=
  match characters with
  | '[' :: ':' :: body =>
      let (negated, body) := match body with
        | '^' :: body => (true, body)
        | body => (false, body)
      match Text.cut? ':' body with
      | some (name, ']' :: after) =>
          (namedClass? (String.ofList name)).map fun members => (members, negated, after)
      | _ => none
  | _ => none

/-- One member of a class: an escape or a character. -/
def readMember : Reader Escape := do
  let character ← next .unclosedClass
  if character = '\\' then readEscape
  else
    bump
    return .literal character

/-- A member as a set. -/
def memberSet (asciiOnly : Bool) : Escape → Except PatternFault CharacterSet
  | .literal character =>
      if asciiOnly ∧ 0x80 ≤ character.toNat then .error .beyondAscii
      else .ok (.singleton character)
  | .set members => .ok members
  | .boundary _ => .error .badClass

/-- A range between two characters. -/
def rangeSet (asciiOnly : Bool) : Escape → Escape → Except PatternFault CharacterSet
  | .literal first, .literal last =>
      if asciiOnly ∧ (0x80 ≤ first.toNat ∨ 0x80 ≤ last.toNat) then .error .beyondAscii
      else if first ≤ last then .ok ⟨[(first.toNat, last.toNat)]⟩
      else .error .badRange
  | _, _ => .error .badRange

/-- The first character that is not blank. One number sign is skipped, but no comment after it; at
the end of the pattern nothing is. -/
def peekVerbose? (characters : List Char) : Option Char :=
  let after := characters.dropWhile Text.isBlank
  let after := if after.head? = some '#' then after.tail.dropWhile Text.isBlank else after
  after.head?.or characters.head?

/-- The character after the next one. -/
def peekSecond? : Reader (Option Char) := do
  let after := (← rest).tail
  return if (← flags).verbose then peekVerbose? after else after.head?

/-- A member or a range. A hyphen in front of a closing bracket or of another hyphen makes no
range. -/
def readRange : Reader CharacterSet := do
  let first ← readMember
  skip
  let asciiOnly := (← flags).asciiOnly
  let character ← next .unclosedClass
  let second? ← peekSecond?
  if character != '-' || second? == some ']' || second? == some '-' then
    memberSet asciiOnly first
  else
    bumpAndSkip
    rangeSet asciiOnly first (← readMember)

/-- Hyphens at the start of a class are members. -/
def readHyphens : Nat → Members → Reader Members
  | 0, members => return members
  | fuel + 1, members => do
      if (← next .unclosedClass) = '-' then
        bumpAndSkip
        readHyphens fuel (members.add ⟨.singleton '-', 0⟩)
      else return members

/-- The start of a class: whether it is negated, and the members that would have another meaning
further on. -/
def readClassStart : Reader (Bool × Members) := do
  bumpAndSkip
  let negated := (← next .unclosedClass) == '^'
  if negated then bumpAndSkip
  let members ← readHyphens ((← rest).length + 1) {}
  if members.depths.isEmpty ∧ (← next .unclosedClass) = ']' then
    bumpAndSkip
    let _ ← next .unclosedClass
    return (negated, members.add ⟨.singleton ']', 0⟩)
  let _ ← next .unclosedClass
  return (negated, members)

mutual

/-- A class from its opening to its closing bracket. -/
def readClass : Nat → Reader (Nested CharacterSet)
  | 0 => throw .unclosedClass
  | fuel + 1 => do
      let (negated, members) ← readClassStart
      let members ← readMembers fuel none members
      return ⟨← finishSet (← flags) negated members.value, members.depth + 1⟩

/-- The members of a class up to its closing bracket. -/
def readMembers : Nat → LeftSide → Members → Reader (Nested CharacterSet)
  | 0, _, _ => throw .unclosedClass
  | fuel + 1, left, members => do
      skip
      let operate (operator : SetOperator) : Reader (Nested CharacterSet) := do
        bump
        bump
        readMembers fuel (some (operator, ← combine (← flags) left members)) {}
      match ← rest with
      | [] => throw .unclosedClass
      | ']' :: _ =>
          bump
          combine (← flags) left members
      | '&' :: '&' :: _ => operate .intersection
      | '-' :: '-' :: _ => operate .difference
      | '~' :: '~' :: _ => operate .symmetricDifference
      | '[' :: _ =>
          match cutNamedClass? (← rest) with
          | some (named, negated, after) =>
              setRest after
              let named ← finishSet (← flags) negated named
              readMembers fuel left (members.add ⟨named, 0⟩)
          | none =>
              let inner ← readClass fuel
              readMembers fuel left (members.add inner)
      | _ => readMembers fuel left (members.add ⟨← readRange, 0⟩)

end

end Graft.Pattern
