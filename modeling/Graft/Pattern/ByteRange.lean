/-
This file tells which bytes encode the characters of a set.
-/

import Graft.Character.Set

namespace Graft.Pattern

/-- The bytes between two bytes, both included. -/
abbrev ByteRange := Nat × Nat

/-- The first codes whose characters take two, three and four bytes. -/
def longerCodes : List Nat := [0x80, 0x800, 0x10000]

/-- Where a range of codes must be cut so that each of its first bytes goes with all of the bytes
that may follow: where the last bytes of its first code do not start a round of sixty-four, or the
last bytes of its last code do not end one. -/
def roundCut? (start stop : Nat) : List Nat → Option Nat
  | [] => none
  | round :: rest =>
      if start / round = stop / round then roundCut? start stop rest
      else if start % round ≠ 0 then some ((start / round + 1) * round)
      else if stop % round ≠ round - 1 then some (stop / round * round)
      else roundCut? start stop rest

/-- Where a range of codes must be cut, so that its characters take one count of bytes each, and
each byte can be chosen apart from the others. -/
def cut? (start stop : Nat) : Option Nat :=
  let gapEnd := CharacterSet.surrogates.2 + 1
  match (gapEnd :: longerCodes).find? fun code => start < code && code ≤ stop with
  | some code => some code
  | none => if stop < 0x80 then none else roundCut? start stop [0x40, 0x1000, 0x40000]

/-- A range cut into pieces that need no cut. -/
def codePieces (start stop : Nat) : List (Nat × Nat) :=
  match cut? start stop with
  | some code =>
      if _ : start < code ∧ code ≤ stop then
        codePieces start (CharacterSet.preceding code) ++ codePieces code stop
      else [(start, stop)]
  | none => [(start, stop)]
termination_by stop - start
decreasing_by
  · unfold CharacterSet.preceding CharacterSet.surrogates
    split <;> omega
  · omega

/-- The bytes of a character, as numbers. -/
def bytesOf (code : Nat) : List Nat :=
  (String.utf8EncodeChar (Char.ofNat code)).map UInt8.toNat

/-- The ranges of bytes, one after another, that encode the characters of each piece of a set. -/
def byteSequences (members : CharacterSet) : List (List ByteRange) :=
  members.ranges.flatMap fun (start, stop) =>
    (codePieces start stop).map fun (first, last) => (bytesOf first).zip (bytesOf last)

end Graft.Pattern
