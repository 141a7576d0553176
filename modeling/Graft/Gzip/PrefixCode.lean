/-
This file defines codes in which no word starts another. A code is given by the lengths of its
words, and the words of one length follow each other in the order of their symbols.
-/

import Graft.Gzip.Bits

namespace Graft.Gzip

/-- How many words there are of each length from one on, and the symbols ordered by the lengths of
their words. -/
structure PrefixCode where
  counts : List Nat
  symbols : Array Nat

namespace PrefixCode

/-- Words have this many bits at most. -/
def longestWord : Nat := 15

/-- How many more words of the last length there could be, or nothing if there are too many. -/
def room? : Nat → List Nat → Option Nat
  | room, [] => some room
  | room, count :: rest => if 2 * room < count then none else room? (2 * room - count) rest

/-- The lengths must leave no room, except that there may be a single word of length one or none at
all. A symbol of length zero has no word. -/
def ofLengths? (lengths : List Nat) : Option PrefixCode := do
  let counts := (List.range longestWord).map fun length => lengths.count (length + 1)
  let room ← room? 1 counts
  if 0 < room ∧ 1 < lengths.foldl (· + ·) 0 then none
  let symbols := (List.range longestWord).flatMap fun length =>
    (lengths.zipIdx.filter fun entry => entry.1 == length + 1).map Prod.snd
  return ⟨counts, symbols.toArray⟩

/-- The symbol of the word that comes next. The words of each length start at `first`, and their
symbols at `index`. -/
def readFrom (symbols : Array Nat) : List Nat → Nat → Nat → Nat → BitReader Nat
  | [], _, _, _ => fun _ => none
  | count :: rest, word, first, index => do
      let word := word + (← readBit)
      if word < first + count then
        match symbols[index + (word - first)]? with
        | some symbol => return symbol
        | none => fun _ => none
      else readFrom symbols rest (2 * word) (2 * (first + count)) (index + count)

def read (code : PrefixCode) : BitReader Nat := readFrom code.symbols code.counts 0 0 0

end PrefixCode

end Graft.Gzip
