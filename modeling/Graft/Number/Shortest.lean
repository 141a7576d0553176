/-
This file finds the shortest decimal that reads back as a given binary floating-point number.
-/

import Graft.Number.Binary64

namespace Graft

/-- The decimal `digits * 10 ^ exponent`. -/
structure Decimal where
  digits : Nat
  exponent : Int
  deriving DecidableEq, Repr

namespace Binary64

/-- The reals that round to a number, as a ratio and its two ends over one denominator. -/
structure Interval where
  low : Nat
  middle : Nat
  high : Nat
  denominator : Nat
  closed : Bool

/-- The interval of a positive finite number. The lower gap is half as wide at a power of two. -/
def interval (significand : Nat) (exponent : Int) : Interval :=
  let narrow := significand == leadingBit && exponent != -1074
  let middle := 4 * significand
  let low := if narrow then middle - 1 else middle - 2
  let scale := if 0 ≤ exponent then 1 <<< exponent.toNat else 1
  let denominator := if 0 ≤ exponent then 4 else 4 <<< (-exponent).toNat
  ⟨low * scale, middle * scale, (middle + 2) * scale, denominator, significand % 2 == 0⟩

/-- Whether `digits * 10 ^ exponent` lies in the interval. -/
def Interval.holds (range : Interval) (digits : Nat) (exponent : Int) : Bool :=
  let left := if 0 ≤ exponent then digits * Nat.pow 10 exponent.toNat * range.denominator
    else digits * range.denominator
  let unit := if 0 ≤ exponent then 1 else Nat.pow 10 (-exponent).toNat
  if range.closed then range.low * unit ≤ left && left ≤ range.high * unit
  else range.low * unit < left && left < range.high * unit

/-- The better of the two neighbours on one decimal grid, if one of them lies in the interval. -/
def Interval.neighbour? (range : Interval) (exponent : Int) : Option Nat :=
  let numerator := if 0 ≤ exponent then range.middle
    else range.middle * Nat.pow 10 (-exponent).toNat
  let denominator := if 0 ≤ exponent then range.denominator * Nat.pow 10 exponent.toNat
    else range.denominator
  let below := numerator / denominator
  let nearest := roundedQuotient numerator denominator
  if nearest != 0 && range.holds nearest exponent then some nearest
  else if below != 0 && range.holds below exponent then some below
  else if range.holds (below + 1) exponent then some (below + 1)
  else none

/-- The grids are tried from the coarsest on; the finest one always has a hit. -/
def Interval.shortest (range : Interval) : Nat → Int → Decimal
  | 0, exponent => ⟨roundedQuotient range.middle range.denominator, exponent⟩
  | grids + 1, exponent =>
      match range.neighbour? exponent with
      | some digits => ⟨digits, exponent⟩
      | none => range.shortest grids (exponent - 1)

/-- The zeros at the end of the digits move into the exponent. -/
def Decimal.stripped : Nat → Decimal → Decimal
  | 0, decimal => decimal
  | fuel + 1, decimal =>
      if decimal.digits != 0 && decimal.digits % 10 == 0 then
        Decimal.stripped fuel ⟨decimal.digits / 10, decimal.exponent + 1⟩
      else decimal

/-- The decimal with the fewest digits that rounds to the number, the nearest among those. -/
def shortest (significand : Nat) (exponent : Int) : Decimal :=
  let range := interval significand exponent
  let magnitude : Int := (range.middle.log2 : Int) - range.denominator.log2
  let start := magnitude * 30103 / 100000 + 2
  Decimal.stripped 20 (range.shortest 40 start)

end Binary64

end Graft
