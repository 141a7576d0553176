/-
This file shows that compressed contents are taken out as they were put in.
-/

import Graft.Gzip
import Mathlib.Algebra.Group.Nat.Defs

namespace Graft.Gzip

variable {A B : Type}

/-- A chain of readers goes on where its first part stops. -/
theorem bind_of_read {reader : BitReader A} {bits later : Bits} {value : A}
    (read : reader bits = some (value, later)) (next : A → BitReader B) :
    (reader >>= next) bits = next value later := by
  simp [bind, StateT.bind, read]

theorem length_wordBytes (count value : Nat) : (wordBytes count value).length = count := by
  induction count generalizing value with
  | zero => rfl
  | succ count inductionHypothesis => rw [wordBytes, List.length_cons, inductionHypothesis]

/-- The bytes of a number give the number back, up to what they can hold. -/
theorem foldr_wordBytes (count value : Nat) :
    (wordBytes count value).foldr (fun byte value => byte.toNat + 256 * value) 0 =
      value % 256 ^ count := by
  induction count generalizing value with
  | zero => simp [wordBytes, Nat.mod_one]
  | succ count inductionHypothesis =>
      rw [wordBytes, List.foldr_cons, inductionHypothesis, Nat.pow_succ', Nat.mod_mul]
      simp

/-- As many bytes are read as are asked for. -/
theorem readBytes_append (bytes rest : List UInt8) (used : Nat) :
    readBytes bytes.length ⟨bytes ++ rest, used⟩ = some (bytes, ⟨rest, 0⟩) := by
  simp [readBytes]

/-- A number that was written in some bytes is read from them. -/
theorem readWord_wordBytes (count value used : Nat) (rest : List UInt8) :
    readWord count ⟨wordBytes count value ++ rest, used⟩ =
      some (value % 256 ^ count, ⟨rest, 0⟩) := by
  have read := readBytes_append (wordBytes count value) rest used
  rw [length_wordBytes] at read
  rw [readWord, bind_of_read read, foldr_wordBytes]
  rfl

/-- A stored block starts with the bit that tells whether it is the last one, and two clear bits. -/
theorem readBit_storedBlock (last : Bool) (rest : List UInt8) :
    readBit ⟨(if last then 1 else 0) :: rest, 0⟩ =
      some (last.toNat, ⟨(if last then 1 else 0) :: rest, 1⟩) := by
  cases last <;> rfl

theorem readNumber_storedBlock (last : Bool) (rest : List UInt8) :
    readNumber 2 ⟨(if last then 1 else 0) :: rest, 1⟩ =
      some (0, ⟨(if last then 1 else 0) :: rest, 3⟩) := by
  have first : readBit ⟨(if last then 1 else 0) :: rest, 1⟩ =
      some (0, ⟨(if last then 1 else 0) :: rest, 2⟩) := by cases last <;> rfl
  have second : readBit ⟨(if last then 1 else 0) :: rest, 2⟩ =
      some (0, ⟨(if last then 1 else 0) :: rest, 3⟩) := by cases last <;> rfl
  have later : readNumber 1 ⟨(if last then 1 else 0) :: rest, 2⟩ =
      some (0, ⟨(if last then 1 else 0) :: rest, 3⟩) := by
    rw [readNumber, bind_of_read second]
    rfl
  rw [readNumber, bind_of_read first, bind_of_read later]
  rfl

/-- The bytes of a stored block are read behind its first byte, which was read in part. -/
theorem readStored_storedBlock {bytes : List UInt8} (small : bytes.length ≤ blockLimit)
    (output : Array UInt8) (first : UInt8) (rest : List UInt8) :
    readStored output ⟨first :: (wordBytes 2 bytes.length ++
        (wordBytes 2 (blockLimit - bytes.length) ++ (bytes ++ rest))), 3⟩ =
      some (output ++ bytes, ⟨rest, 0⟩) := by
  have fits : bytes.length % 256 ^ 2 = bytes.length :=
    Nat.mod_eq_of_lt (Nat.lt_of_le_of_lt small (by decide))
  have checkFits : (blockLimit - bytes.length) % 256 ^ 2 = blockLimit - bytes.length :=
    Nat.mod_eq_of_lt (Nat.lt_of_le_of_lt (Nat.sub_le _ _) (by decide))
  have whole : bytes.length + (blockLimit - bytes.length) = 0xFFFF := Nat.add_sub_cancel' small
  have aligned (rest : List UInt8) : alignToByte ⟨first :: rest, 3⟩ = some ((), ⟨rest, 0⟩) := rfl
  rw [readStored, bind_of_read (aligned _), bind_of_read (readWord_wordBytes _ _ _ _),
    bind_of_read (readWord_wordBytes _ _ _ _), fits, checkFits, if_pos whole,
    bind_of_read (readBytes_append _ _ _)]
  rfl

/-- A stored block gives its bytes, and unless it is the last one the blocks behind it follow. -/
theorem readBlocks_storedBlock {bytes : List UInt8} (small : bytes.length ≤ blockLimit) (fuel : Nat)
    (last : Bool) (output : Array UInt8) (rest : List UInt8) :
    readBlocks (fuel + 1) output ⟨storedBlock last bytes ++ rest, 0⟩ =
      if last then some (output ++ bytes, ⟨rest, 0⟩)
      else readBlocks fuel (output ++ bytes) ⟨rest, 0⟩ := by
  simp only [storedBlock, List.cons_append, List.append_assoc]
  rw [readBlocks, bind_of_read (readBit_storedBlock last _),
    bind_of_read (readNumber_storedBlock last _)]
  change (readStored output >>= fun output =>
    if last.toNat = 1 then pure output else readBlocks fuel output) _ = _
  rw [bind_of_read (readStored_storedBlock small _ _ _)]
  cases last <;> rfl

/-- Bytes in stored blocks are read back, whatever was read before them. There are at most as many
blocks as the writer's fuel allows and one more, so the reader needs more fuel than the writer. -/
theorem readBlocks_storedBlocks {fuel limit : Nat} {bytes : List UInt8}
    (fits : bytes.length ≤ blockLimit * (fuel + 1)) (enough : fuel < limit) (output : Array UInt8)
    (rest : List UInt8) :
    readBlocks limit output ⟨storedBlocks fuel bytes ++ rest, 0⟩ =
      some (output ++ bytes, ⟨rest, 0⟩) := by
  induction fuel generalizing limit bytes output with
  | zero =>
      obtain ⟨limit, rfl⟩ : ∃ before, limit = before + 1 := ⟨limit - 1, by omega⟩
      exact readBlocks_storedBlock (by simpa using fits) limit true output rest
  | succ fuel inductionHypothesis =>
      obtain ⟨limit, rfl⟩ : ∃ before, limit = before + 1 := ⟨limit - 1, by omega⟩
      rw [storedBlocks]
      split
      · rename_i small
        exact readBlocks_storedBlock small limit true output rest
      · rename_i large
        have head : (bytes.take blockLimit).length = blockLimit :=
          List.length_take_of_le (Nat.le_of_not_le large)
        have tail : (bytes.drop blockLimit).length ≤ blockLimit * (fuel + 1) := by
          rw [Nat.mul_succ] at fits
          rw [List.length_drop]
          omega
        rw [List.append_assoc, readBlocks_storedBlock (Nat.le_of_eq head)]
        have enough : fuel < limit := by omega
        have later := inductionHypothesis tail enough (output ++ bytes.take blockLimit)
        rw [if_neg Bool.false_ne_true, later]
        congr 2
        apply Array.toList_inj.mp
        simp

/-- A block has as many bytes as it stores at least. -/
theorem le_length_storedBlock (last : Bool) (bytes : List UInt8) :
    bytes.length ≤ (storedBlock last bytes).length := by
  simp only [storedBlock, List.length_append]
  exact Nat.le_add_left _ _

/-- Blocks have as many bytes as they store at least. -/
theorem le_length_storedBlocks (fuel : Nat) (bytes : List UInt8) :
    bytes.length ≤ (storedBlocks fuel bytes).length := by
  induction fuel generalizing bytes with
  | zero => exact le_length_storedBlock true bytes
  | succ fuel inductionHypothesis =>
      rw [storedBlocks]
      split
      · exact le_length_storedBlock true bytes
      · have first := le_length_storedBlock false (bytes.take blockLimit)
        have later := inductionHypothesis (bytes.drop blockLimit)
        rw [List.length_take] at first
        rw [List.length_drop] at later
        rw [List.length_append]
        omega

/-- Stored blocks are inflated to their bytes. -/
theorem inflate_storedBlocks (bytes rest : List UInt8) :
    inflate ⟨storedBlocks bytes.length bytes ++ rest, 0⟩ = some (bytes, ⟨rest, 0⟩) := by
  have fits : bytes.length ≤ blockLimit * (bytes.length + 1) := by
    have positive : 1 ≤ blockLimit := by decide
    calc bytes.length ≤ 1 * (bytes.length + 1) := by omega
      _ ≤ blockLimit * (bytes.length + 1) := Nat.mul_le_mul_right _ positive
  have enough : bytes.length < 8 * (storedBlocks bytes.length bytes ++ rest).length + 1 := by
    have long := le_length_storedBlocks bytes.length bytes
    rw [List.length_append]
    omega
  rw [inflate, readBlocks_storedBlocks fits enough]
  simp

/-- The header announces no extra field and is read without a fault. -/
theorem readHeader_header (rest : List UInt8) :
    readHeader ⟨header ++ rest, 0⟩ = some ((), ⟨rest, 0⟩) := by
  have read : readBytes 10 ⟨header ++ rest, 0⟩ = some (header, ⟨rest, 0⟩) :=
    readBytes_append header rest 0
  have started : (get : BitReader Bits) ⟨header ++ rest, 0⟩ =
      some (⟨header ++ rest, 0⟩, ⟨header ++ rest, 0⟩) := rfl
  rw [readHeader, bind_of_read started, bind_of_read read]
  rfl

/-- A compressed content is taken out as it was put in. -/
theorem decompress?_compress (content : ByteArray) :
    decompress? (compress content) = some content := by
  obtain ⟨⟨bytes⟩⟩ := content
  have sumFits : (checksum bytes).toNat % 256 ^ 4 = (checksum bytes).toNat :=
    Nat.mod_eq_of_lt (checksum bytes).toNat_lt
  have read : readMember ⟨compressBytes bytes, 0⟩ = some (bytes, ⟨[], 0⟩) := by
    have aligned (rest : List UInt8) : alignToByte ⟨rest, 0⟩ = some ((), ⟨rest, 0⟩) := rfl
    have last := readWord_wordBytes 4 bytes.length 0 []
    rw [List.append_nil] at last
    simp only [compressBytes, List.append_assoc]
    rw [readMember, bind_of_read (readHeader_header _), bind_of_read (inflate_storedBlocks _ _),
      bind_of_read (aligned _), bind_of_read (readWord_wordBytes _ _ _ _), sumFits]
    rw [if_neg (by simp)]
    dsimp only
    rw [bind_of_read last, if_neg (by simp)]
    rfl
  rw [decompress?, compress]
  simp [StateT.run', read]

/-- A compressed content is no text: its second byte cannot start a character. -/
theorem not_isValidUTF8_compress (content : ByteArray) : ¬(compress content).IsValidUTF8 := by
  obtain ⟨rest, starts⟩ : ∃ rest, compressBytes content.data.toList = 0x1F :: 0x8B :: rest :=
    ⟨_, rfl⟩
  have split : compress content =
      ['\x1F'].utf8Encode ++ ByteArray.mk (0x8B :: rest).toArray := by
    rw [compress, starts]
    apply ByteArray.ext
    simp [List.utf8Encode_singleton, String.utf8EncodeChar]
  rw [split, ByteArray.isValidUTF8_utf8Encode_singleton_append_iff]
  intro valid
  have first : UInt8.IsUTF8FirstByte 0x8B :=
    valid.isUTF8FirstByte_getElem_zero (Nat.zero_lt_succ _)
  exact absurd first (by decide)

end Graft.Gzip
