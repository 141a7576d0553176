/-
This file models the binary floating-point numbers of 64 bits by their bit patterns and rounds
exact ratios to them.
-/

namespace Graft

/-- A binary floating-point number of 64 bits, kept as its bit pattern. -/
structure Binary64 where
  bits : UInt64
  deriving DecidableEq, Repr

namespace Binary64

/-- The four shapes that a bit pattern encodes. A finite number is `significand * 2 ^ exponent`. -/
inductive Shape where
  | finite (negative : Bool) (significand : Nat) (exponent : Int)
  | infinite (negative : Bool)
  | notANumber
  deriving DecidableEq, Repr

def infinity (negative : Bool) : Binary64 :=
  ⟨if negative then 0xFFF0000000000000 else 0x7FF0000000000000⟩

def notANumber : Binary64 := ⟨0x7FF8000000000000⟩

/-- The highest bit of a bit pattern is set for negative numbers. -/
def signBit : Nat := 0x8000000000000000

/-- The leading bit of a significand with 53 bits. -/
def leadingBit : Nat := 0x10000000000000

def isNegative (value : Binary64) : Bool := value.bits.toNat / signBit == 1

def shape (value : Binary64) : Shape :=
  let word : Nat := value.bits.toNat
  let fraction : Nat := word % leadingBit
  let biased : Nat := word / leadingBit % 2048
  if biased == 2047 then
    if fraction == 0 then .infinite value.isNegative else .notANumber
  else if biased == 0 then .finite value.isNegative fraction (-1074)
  else .finite value.isNegative (fraction + leadingBit) ((biased : Int) - 1075)

def isFinite (value : Binary64) : Bool :=
  match value.shape with
  | .finite .. => true
  | _ => false

/-- The quotient rounded to the nearest natural number; a half goes to the even neighbour. -/
def roundedQuotient (numerator denominator : Nat) : Nat :=
  let quotient := numerator / denominator
  let twice := 2 * (numerator % denominator)
  if twice < denominator then quotient
  else if twice > denominator then quotient + 1
  else if quotient % 2 == 0 then quotient else quotient + 1

/-- The quotient over `2 ^ exponent`, rounded to the nearest natural number. -/
def roundedAt (numerator denominator : Nat) (exponent : Int) : Nat :=
  if 0 ≤ exponent then roundedQuotient numerator (denominator <<< exponent.toNat)
  else roundedQuotient (numerator <<< (-exponent).toNat) denominator

/-- The number with the significand and exponent; a significand of 54 bits carries over. -/
def ofScaled (negative : Bool) (significand : Nat) (exponent : Int) : Binary64 :=
  let sign := if negative then signBit else 0
  let (significand, exponent) :=
    if significand == 2 * leadingBit then (leadingBit, exponent + 1) else (significand, exponent)
  if significand < leadingBit then ⟨UInt64.ofNat (sign + significand)⟩
  else if exponent > 971 then infinity negative
  else ⟨UInt64.ofNat (sign + (exponent + 1075).toNat * leadingBit + (significand - leadingBit))⟩

/-- The number nearest to a ratio; a half goes to the even neighbour. -/
def ofRatio (negative : Bool) (numerator denominator : Nat) : Binary64 :=
  if numerator == 0 then ofScaled negative 0 (-1074)
  else
    let guess : Int := (numerator.log2 : Int) - denominator.log2 - 52
    let tooHigh := if 0 ≤ guess then numerator < denominator <<< (guess.toNat + 52)
      else numerator <<< (-guess).toNat < denominator <<< 52
    let exponent := max (if tooHigh then guess - 1 else guess) (-1074)
    ofScaled negative (roundedAt numerator denominator exponent) exponent

/-- The number nearest to `digits * 10 ^ exponent`. -/
def ofDecimal (negative : Bool) (digits : Nat) (exponent : Int) : Binary64 :=
  let magnitude := (toString digits).length + exponent
  if digits == 0 || magnitude < -400 then ofScaled negative 0 (-1074)
  else if magnitude > 400 then infinity negative
  else if 0 ≤ exponent then ofRatio negative (digits * Nat.pow 10 exponent.toNat) 1
  else ofRatio negative digits (Nat.pow 10 (-exponent).toNat)

end Binary64

end Graft
