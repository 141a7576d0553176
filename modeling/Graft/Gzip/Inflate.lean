/-
This file reads compressed blocks. A block holds bytes as they are, or words of prefix codes that
stand for bytes and for copies of earlier bytes.
-/

import Graft.Gzip.PrefixCode

namespace Graft.Gzip

/-- The least length of a copy and how many bits are added to it, for the symbols from 257 on. -/
def copyLengths : List (Nat × Nat) :=
  [(3, 0), (4, 0), (5, 0), (6, 0), (7, 0), (8, 0), (9, 0), (10, 0), (11, 1), (13, 1), (15, 1),
    (17, 1), (19, 2), (23, 2), (27, 2), (31, 2), (35, 3), (43, 3), (51, 3), (59, 3), (67, 4),
    (83, 4), (99, 4), (115, 4), (131, 5), (163, 5), (195, 5), (227, 5), (258, 0)]

/-- The least distance of a copy and how many bits are added to it. -/
def copyDistances : List (Nat × Nat) :=
  [(1, 0), (2, 0), (3, 0), (4, 0), (5, 1), (7, 1), (9, 2), (13, 2), (17, 3), (25, 3), (33, 4),
    (49, 4), (65, 5), (97, 5), (129, 6), (193, 6), (257, 7), (385, 7), (513, 8), (769, 8),
    (1025, 9), (1537, 9), (2049, 10), (3073, 10), (4097, 11), (6145, 11), (8193, 12),
    (12289, 12), (16385, 13), (24577, 13)]

/-- An entry of a table with the bits that are added to it. -/
def readEntry (table : List (Nat × Nat)) (index : Nat) : BitReader Nat := do
  match table[index]? with
  | some (least, count) => return least + (← readNumber count)
  | none => fun _ => none

/-- Bytes from a distance back are put at the end one by one, so they may be among the new ones.
There are only zeros before the start. -/
def copyBack (distance : Nat) : Nat → Array UInt8 → Array UInt8
  | 0, output => output
  | count + 1, output =>
      let byte := if distance ≤ output.size then output.getD (output.size - distance) 0 else 0
      copyBack distance count (output.push byte)

/-- The bytes of a block up to the symbol that ends it. -/
def readCoded (literals distances : PrefixCode) : Nat → Array UInt8 → BitReader (Array UInt8)
  | 0, _ => fun _ => none
  | fuel + 1, output => do
      let symbol ← literals.read
      if symbol < 256 then
        readCoded literals distances fuel (output.push (UInt8.ofNat symbol))
      else if symbol = 256 then return output
      else
        let length ← readEntry copyLengths (symbol - 257)
        let distance ← readEntry copyDistances (← distances.read)
        readCoded literals distances fuel (copyBack distance length output)

/-- The lengths of the words when a block does not give its own. -/
def fixedLengths : List Nat :=
  List.replicate 144 8 ++ List.replicate 112 9 ++ List.replicate 24 7 ++ List.replicate 8 8

/-- The order in which the lengths of the words for lengths are written. -/
def lengthOrder : List Nat := [16, 17, 18, 0, 8, 7, 9, 6, 10, 5, 11, 4, 12, 3, 13, 2, 14, 1, 15]

/-- Lengths of words, which are written with a code themselves. Three symbols repeat a length. -/
def readLengths (code : PrefixCode) (total : Nat) : Nat → List Nat → BitReader (List Nat)
  | 0, _ => fun _ => none
  | fuel + 1, lengths => do
      if total < lengths.length then fun _ => none
      else if lengths.length = total then return lengths
      else
        let symbol ← code.read
        if symbol < 16 then readLengths code total fuel (lengths ++ [symbol])
        else if symbol = 16 then
          match lengths.getLast? with
          | some last =>
              let count := 3 + (← readNumber 2)
              readLengths code total fuel (lengths ++ List.replicate count last)
          | none => fun _ => none
        else
          let count ← if symbol = 17 then (3 + ·) <$> readNumber 3 else (11 + ·) <$> readNumber 7
          readLengths code total fuel (lengths ++ List.replicate count 0)

def codeOf (lengths : List Nat) : BitReader PrefixCode := fun bits =>
  (PrefixCode.ofLengths? lengths).map fun code => (code, bits)

/-- Numbers of three bits, one for each of some places. -/
def readPlaces : List Nat → BitReader (List (Nat × Nat))
  | [] => return []
  | place :: rest => do
      let number ← readNumber 3
      return (place, number) :: (← readPlaces rest)

/-- The two codes of a block that gives its own. They have words for no other symbols than those
that stand for something. -/
def readCodes : BitReader (PrefixCode × PrefixCode) := do
  let literals := 257 + (← readNumber 5)
  let distances := 1 + (← readNumber 5)
  if 257 + copyLengths.length < literals then failure
  if copyDistances.length < distances then failure
  let places ← readPlaces (lengthOrder.take (4 + (← readNumber 4)))
  let code ← codeOf ((List.range 19).map fun place => (places.lookup place).getD 0)
  let lengths ← readLengths code (literals + distances) (literals + distances + 1) []
  return (← codeOf (lengths.take literals), ← codeOf (lengths.drop literals))

/-- The bytes of a block that is not compressed. Their count is written twice. -/
def readStored (output : Array UInt8) : BitReader (Array UInt8) := do
  alignToByte
  let count ← readWord 2
  let check ← readWord 2
  if count + check = 0xFFFF then return output ++ (← readBytes count) else fun _ => none

/-- The blocks up to the last one. -/
def readBlocks : Nat → Array UInt8 → BitReader (Array UInt8)
  | 0, _ => fun _ => none
  | fuel + 1, output => do
      let last ← readBit
      let output ← match ← readNumber 2 with
        | 0 => readStored output
        | 1 => do
            readCoded (← codeOf fixedLengths) (← codeOf (List.replicate 32 5)) fuel output
        | 2 => do
            let (literals, distances) ← readCodes
            readCoded literals distances fuel output
        | _ => fun _ => none
      if last = 1 then return output else readBlocks fuel output

/-- The bytes of a compressed stream; every symbol takes a bit at least. -/
def inflate : BitReader (List UInt8) := fun bits =>
  (readBlocks (8 * bits.bytes.length + 1) #[] bits).map fun (output, bits) =>
    (output.toList, bits)

end Graft.Gzip
