/-
This file defines the numbers of a document and the text in which they are written.
-/

import Graft.Number.Shortest

namespace Graft

/-- A number is a whole number or a binary floating-point number. -/
inductive Number where
  | whole (value : Int)
  | real (value : Binary64)
  deriving DecidableEq, Repr

namespace Number

/-- The zeros that a positional form needs. -/
def zeros (count : Nat) : String := String.ofList (List.replicate count '0')

/-- A decimal is positional while its point stays near its digits, else it has an exponent.
A positional form always has a point with a digit after it. -/
def decimalText (decimal : Decimal) : String :=
  let digits := toString decimal.digits
  let count := digits.length
  let point := count + decimal.exponent
  if 0 ≤ decimal.exponent && point ≤ 16 then
    digits ++ zeros decimal.exponent.toNat ++ ".0"
  else if 0 < point && point ≤ 16 then
    let whole := digits.toList.take point.toNat
    let fraction := digits.toList.drop point.toNat
    String.ofList whole ++ "." ++ String.ofList fraction
  else if -5 < point && point ≤ 0 then
    "0." ++ zeros (-point).toNat ++ digits
  else
    let power := toString (point - 1)
    match digits.toList with
    | [] => ""
    | [digit] => String.ofList [digit] ++ "e" ++ power
    | digit :: fraction => String.ofList (digit :: '.' :: fraction) ++ "e" ++ power

def realText (value : Binary64) : String :=
  match value.shape with
  | .notANumber => ".nan"
  | .infinite negative => if negative then "-.inf" else ".inf"
  | .finite negative significand exponent =>
      let sign := if negative then "-" else ""
      if significand == 0 then sign ++ "0.0"
      else sign ++ decimalText (Binary64.shortest significand exponent)

/-- The text of a number reads back as that number. -/
def text : Number → String
  | .whole value => toString value
  | .real value => realText value

/-- The whole numbers that fit a signed or an unsigned machine word. -/
def inRange (value : Int) : Bool :=
  -0x8000000000000000 ≤ value && value < 0x10000000000000000

end Number

end Graft
