/-
This file reads bits from bytes. The lowest bit of a byte comes first.
-/

namespace Graft.Gzip

/-- The bytes that are left, and how many bits of the first one were read. -/
structure Bits where
  bytes : List UInt8
  used : Nat
  deriving Repr

abbrev BitReader := StateT Bits Option

def readBit : BitReader Nat := fun bits =>
  match bits.bytes with
  | [] => none
  | byte :: rest =>
      let bit := (byte.toNat >>> bits.used) % 2
      if bits.used < 7 then some (bit, ⟨byte :: rest, bits.used + 1⟩) else some (bit, ⟨rest, 0⟩)

/-- A number of some bits; its lowest bit comes first. -/
def readNumber : Nat → BitReader Nat
  | 0 => return 0
  | count + 1 => do
      let bit ← readBit
      return bit + 2 * (← readNumber count)

/-- The rest of a byte that was read in part is dropped. -/
def alignToByte : BitReader Unit := fun bits =>
  some ((), ⟨if bits.used = 0 then bits.bytes else bits.bytes.tail, 0⟩)

/-- The next bytes, once the reader is aligned. -/
def readBytes (count : Nat) : BitReader (List UInt8) := fun bits =>
  if bits.bytes.length < count then none
  else some (bits.bytes.take count, ⟨bits.bytes.drop count, 0⟩)

/-- A number of some bytes; its lowest byte comes first. -/
def readWord (count : Nat) : BitReader Nat := do
  return (← readBytes count).foldr (fun byte value => byte.toNat + 256 * value) 0

end Graft.Gzip
