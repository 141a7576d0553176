/-
This file reads the values that stand without quotes and brackets.
-/

import Graft.Number.Reading
import Graft.Toml

namespace Graft.Toml

/-- The characters of such values. -/
def isBareCharacter (character : Char) : Bool :=
  character.isAlphanum || character == '+' || character == '-' || character == '_' ||
    character == '.' || character == ':'

/-- The digits of a number without the underscores, which stand between two digits. -/
def digits? (isDigit : Char → Bool) (characters : List Char) : Option (List Char) :=
  let groups := Text.pieces '_' characters
  if groups.all fun group => !group.isEmpty && group.all isDigit then some groups.flatten else none

/-- The digits of a whole number have no leading zero. -/
def wholeDigits? (characters : List Char) : Option (List Char) :=
  (digits? Text.isDigit characters).filter fun digits =>
    digits.head? != some '0' || digits.length == 1

/-- A whole number that fits a signed word of 64 bits. Only decimal digits can have a sign. -/
def whole? (characters : List Char) : Option Int := do
  let value ← match characters with
    | '0' :: 'x' :: rest => based 16 rest
    | '0' :: 'o' :: rest => based 8 rest
    | '0' :: 'b' :: rest => based 2 rest
    | _ => do
        let (negative, rest) := Number.cutSign characters
        let magnitude ← Text.natural? 10 (← wholeDigits? rest)
        some (if negative then -(magnitude : Int) else magnitude)
  if -0x8000000000000000 ≤ value ∧ value < 0x8000000000000000 then some value else none
where
  based (base : Nat) (characters : List Char) : Option Int := do
    let digits ← digits? Text.isHexDigit characters
    (Text.natural? base digits).map Int.ofNat

/-- Whether a text is an exponent with its mark, or nothing. -/
def isExponent : List Char → Bool
  | [] => true
  | mark :: rest =>
      (mark == 'e' || mark == 'E') && (digits? Text.isDigit (Number.cutSign rest).2).isSome

/-- Whether a text is a floating-point number. A positive number must be finite. -/
def isReal (characters : List Char) : Bool :=
  let (negative, rest) := Number.cutSign characters
  let isDigitOrGap (character : Char) : Bool := Text.isDigit character || character == '_'
  let whole := rest.takeWhile isDigitOrGap
  let after := rest.dropWhile isDigitOrGap
  let wellFormed := match after with
    | '.' :: after =>
        (digits? Text.isDigit (after.takeWhile isDigitOrGap)).isSome &&
          isExponent (after.dropWhile isDigitOrGap)
    | [] => false
    | after => isExponent after
  rest == "inf".toList || rest == "nan".toList ||
    ((wholeDigits? whole).isSome && wellFormed &&
      (negative || (Number.real? (rest.filter (· != '_'))).isSome))

/-- A number of a fixed count of digits within bounds, and the rest. -/
def bounded? (count least most : Nat) (characters : List Char) : Option (Nat × List Char) := do
  let digits := characters.take count
  if digits.length < count ∨ !digits.all Text.isDigit then none
  let value ← Text.natural? 10 digits
  if least ≤ value ∧ value ≤ most then some (value, characters.drop count) else none

def after? (mark : Char) : List Char → Option (List Char)
  | character :: rest => if character = mark then some rest else none
  | [] => none

/-- The days of a month in a year. -/
def daysIn (year month : Nat) : Nat :=
  if month = 2 then if year % 4 = 0 ∧ (year % 100 ≠ 0 ∨ year % 400 = 0) then 29 else 28
  else if month = 4 ∨ month = 6 ∨ month = 9 ∨ month = 11 then 30 else 31

/-- What follows a date. -/
def afterDate? (characters : List Char) : Option (List Char) := do
  let (year, rest) ← bounded? 4 0 9999 characters
  let (month, rest) ← bounded? 2 1 12 (← after? '-' rest)
  let (_, rest) ← bounded? 2 1 (daysIn year month) (← after? '-' rest)
  some rest

/-- What follows a time of day with its seconds. -/
def afterTime? (characters : List Char) : Option (List Char) := do
  let (_, rest) ← bounded? 2 0 23 characters
  let (_, rest) ← bounded? 2 0 59 (← after? ':' rest)
  let (_, rest) ← bounded? 2 0 60 (← after? ':' rest)
  match rest with
  | '.' :: fraction =>
      if (fraction.takeWhile Text.isDigit).isEmpty then none
      else some (fraction.dropWhile Text.isDigit)
  | _ => some rest

/-- Whether a text is nothing or the distance from universal time. -/
def isOffset : List Char → Bool
  | [] => true
  | ['Z'] => true
  | ['z'] => true
  | sign :: rest =>
      (sign == '+' || sign == '-') &&
        (do
          let (_, rest) ← bounded? 2 0 23 rest
          let (_, rest) ← bounded? 2 0 59 (← after? ':' rest)
          some rest.isEmpty).getD false

/-- Whether a text is a date, a time of day, or both. -/
def isMoment (characters : List Char) : Bool :=
  match afterDate? characters with
  | some [] => true
  | some (mark :: rest) =>
      (mark == 'T' || mark == 't' || mark == ' ') && (afterTime? rest).any isOffset
  | none => (afterTime? characters).any List.isEmpty

def bare? (characters : List Char) : Option Value :=
  if characters = "true".toList then some (.boolean true)
  else if characters = "false".toList then some (.boolean false)
  else match whole? characters with
    | some value => some (.whole value)
    | none => if isReal characters || isMoment characters then some .other else none

/-- A value without quotes and the rest. A blank may stand between a date and a time. -/
def cutBare? (characters : List Char) : Option (Value × List Char) := do
  let first := characters.takeWhile isBareCharacter
  let rest := characters.dropWhile isBareCharacter
  match afterDate? first, rest with
  | some [], ' ' :: time =>
      if time.head?.any Text.isDigit then
        let whole := first ++ ' ' :: time.takeWhile isBareCharacter
        return (← bare? whole, time.dropWhile isBareCharacter)
      else return (.other, rest)
  | _, _ => return (← bare? first, rest)

end Graft.Toml
