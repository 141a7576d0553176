/-
This file puts contents into the gzip format and takes them out.
-/

import Graft.Gzip.Inflate

namespace Graft.Gzip

/-- One round of the checksum for each bit of a byte. -/
def checksumRound : Nat → UInt32 → UInt32
  | 0, sum => sum
  | count + 1, sum =>
      checksumRound count (if sum % 2 = 1 then (sum >>> 1) ^^^ 0xEDB88320 else sum >>> 1)

def checksumByte (sum : UInt32) (byte : UInt8) : UInt32 :=
  checksumRound 8 (sum ^^^ byte.toUInt32)

/-- The cyclic redundancy check of 32 bits. -/
def checksum (bytes : List UInt8) : UInt32 :=
  bytes.foldl checksumByte 0xFFFFFFFF ^^^ 0xFFFFFFFF

/-- A number in some bytes, the lowest first. -/
def wordBytes : Nat → Nat → List UInt8
  | 0, _ => []
  | count + 1, value => UInt8.ofNat (value % 256) :: wordBytes count (value / 256)

/-- A stored block holds this many bytes at most. -/
def blockLimit : Nat := 0xFFFF

/-- A block with bytes as they are. -/
def storedBlock (last : Bool) (bytes : List UInt8) : List UInt8 :=
  (if last then 1 else 0) :: wordBytes 2 bytes.length ++ wordBytes 2 (blockLimit - bytes.length) ++
    bytes

/-- Bytes in as many blocks as they need. -/
def storedBlocks : Nat → List UInt8 → List UInt8
  | 0, bytes => storedBlock true bytes
  | fuel + 1, bytes =>
      if bytes.length ≤ blockLimit then storedBlock true bytes
      else storedBlock false (bytes.take blockLimit) ++ storedBlocks fuel (bytes.drop blockLimit)

/-- The two bytes that every gzip content starts with. -/
def magic : List UInt8 := [0x1F, 0x8B]

/-- The header without a name, a time or any other extra field. -/
def header : List UInt8 := magic ++ [8, 0, 0, 0, 0, 0, 0, 255]

def compressBytes (bytes : List UInt8) : List UInt8 :=
  header ++ storedBlocks bytes.length bytes ++ wordBytes 4 (checksum bytes).toNat ++
    wordBytes 4 bytes.length

def compress (content : ByteArray) : ByteArray :=
  ⟨(compressBytes content.data.toList).toArray⟩

/-- A text in the header has this many bytes at most. -/
def textLimit : Nat := 0xFFFF

/-- A text in the header ends with a zero. -/
def skipText : BitReader Unit := fun bits =>
  match bits.bytes.span (· != 0) with
  | (text, _ :: rest) => if text.length ≤ textLimit then some ((), ⟨rest, 0⟩) else none
  | (_, []) => none

/-- The header with its extra fields, which the fourth byte announces. Its upper three bits announce
nothing and must be clear. -/
def readHeader : BitReader Unit := do
  let start := (← get).bytes
  let first ← readBytes 10
  if first.take 3 != magic ++ [8] then failure
  let flags := (first.getD 3 0).toNat
  if 0x20 ≤ flags then failure
  if flags.testBit 2 then
    let count ← readWord 2
    let _ ← readBytes count
  if flags.testBit 3 then skipText
  if flags.testBit 4 then skipText
  if flags.testBit 1 then
    let taken := start.length - (← get).bytes.length
    if (← readWord 2) != (checksum (start.take taken)).toNat % 0x10000 then failure

/-- The content of the first member. The checksum and the length must be right, and what follows
is not looked at. -/
def readMember : BitReader (List UInt8) := do
  readHeader
  let bytes ← inflate
  alignToByte
  if (← readWord 4) != (checksum bytes).toNat then failure
  if (← readWord 4) != bytes.length % 0x100000000 then failure
  return bytes

def decompress? (content : ByteArray) : Option ByteArray :=
  (readMember.run' ⟨content.data.toList, 0⟩).map fun bytes => ⟨bytes.toArray⟩

def isCompressed (content : ByteArray) : Bool := magic.isPrefixOf (content.data.toList.take 2)

end Graft.Gzip
