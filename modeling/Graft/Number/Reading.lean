/-
This file reads numbers from text.
-/

import Graft.Number
import Graft.Text

namespace Graft.Number

/-- A sign and what follows it. -/
def cutSign : List Char → Bool × List Char
  | '-' :: rest => (true, rest)
  | '+' :: rest => (false, rest)
  | characters => (false, characters)

/-- Several digits after a leading zero are no number. -/
def isPadded (characters : List Char) : Bool :=
  match (cutSign characters).2 with
  | '0' :: digit :: rest => (digit :: rest).all Text.isDigit
  | _ => false

/-- A natural number in base sixteen, eight, two or ten; a base other than ten has a prefix. -/
def magnitude? : List Char → Option Nat
  | '0' :: 'x' :: digits => Text.natural? 16 digits
  | '0' :: 'o' :: digits => Text.natural? 8 digits
  | '0' :: 'b' :: digits => Text.natural? 2 digits
  | digits => Text.natural? 10 digits

/-- A whole number with an optional sign. -/
def whole? (characters : List Char) : Option Int :=
  if isPadded characters then none
  else
    let (negative, rest) := cutSign characters
    (magnitude? rest).map fun magnitude => if negative then -(magnitude : Int) else magnitude

/-- The whole numbers that fit a signed or an unsigned word of 128 bits. -/
def inWideRange (value : Int) : Bool :=
  -0x80000000000000000000000000000000 ≤ value && value < 0x100000000000000000000000000000000

/-- The exponent after the digits of a decimal. -/
def exponent? : List Char → Option Int
  | [] => some 0
  | mark :: rest =>
      if mark == 'e' || mark == 'E' then
        let (negative, digits) := cutSign rest
        (Text.natural? 10 digits).map fun power => if negative then -(power : Int) else power
      else none

/-- A decimal with an optional point and an optional exponent; it has a digit before the
exponent. -/
def decimal? (characters : List Char) : Option Decimal := do
  let whole := characters.takeWhile Text.isDigit
  let rest := characters.dropWhile Text.isDigit
  let (fraction, rest) := match rest with
    | '.' :: rest => (rest.takeWhile Text.isDigit, rest.dropWhile Text.isDigit)
    | _ => ([], rest)
  let digits ← Text.natural? 10 (whole ++ fraction)
  let exponent ← exponent? rest
  return ⟨digits, exponent - fraction.length⟩

/-- The spellings of the numbers that no decimal denotes. -/
def special? : List Char → Option Binary64 := fun characters =>
  match String.ofList characters with
  | ".inf" | ".Inf" | ".INF" | "+.inf" | "+.Inf" | "+.INF" => some (Binary64.infinity false)
  | "-.inf" | "-.Inf" | "-.INF" => some (Binary64.infinity true)
  | ".nan" | ".NaN" | ".NAN" => some Binary64.notANumber
  | _ => none

/-- A floating-point number: a special spelling or a decimal that is not too large. -/
def real? (characters : List Char) : Option Binary64 :=
  (special? characters).or do
    let (negative, rest) := cutSign characters
    let decimal ← decimal? rest
    let value := Binary64.ofDecimal negative decimal.digits decimal.exponent
    if value.isFinite then some value else none

end Graft.Number
