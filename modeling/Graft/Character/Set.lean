/-
This file defines sets of characters as ranges of code points.
-/

import Graft.Text

namespace Graft

/-- A set of characters is a list of ranges that ascend and do not touch. Both ends of a range
belong to it. -/
structure CharacterSet where
  ranges : List (Nat × Nat)
  deriving DecidableEq, Repr

namespace CharacterSet

/-- The last code point. -/
def lastCode : Nat := 0x10FFFF

/-- Ranges that ascend by their starts are merged where they touch. -/
def merge : List (Nat × Nat) → List (Nat × Nat)
  | [] => []
  | range :: rest => go range rest
where
  go : Nat × Nat → List (Nat × Nat) → List (Nat × Nat)
    | range, [] => [range]
    | (start, stop), (nextStart, nextStop) :: rest =>
        if nextStart ≤ stop + 1 then go (start, max stop nextStop) rest
        else (start, stop) :: go (nextStart, nextStop) rest

def ofRanges (ranges : List (Nat × Nat)) : CharacterSet :=
  ⟨merge (ranges.mergeSort fun first second => first.1 ≤ second.1)⟩

def empty : CharacterSet := ⟨[]⟩

def all : CharacterSet := ⟨[(0, lastCode)]⟩

def singleton (character : Char) : CharacterSet := ⟨[(character.toNat, character.toNat)]⟩

def ofChars (characters : List Char) : CharacterSet :=
  ofRanges (characters.map fun character => (character.toNat, character.toNat))

def isEmpty (set : CharacterSet) : Bool := set.ranges.isEmpty

/-- Whether a code point lies in a list of ranges that ascend. -/
def within (code : Nat) : List (Nat × Nat) → Bool
  | [] => false
  | (start, stop) :: rest =>
      if code < start then false else if code ≤ stop then true else within code rest

def contains (set : CharacterSet) (character : Char) : Bool :=
  within character.toNat set.ranges

def union (first second : CharacterSet) : CharacterSet :=
  ofRanges (first.ranges ++ second.ranges)

def unions (sets : List CharacterSet) : CharacterSet :=
  ofRanges (sets.flatMap ranges)

/-- The gaps between ranges from a start on. -/
def gaps (start : Nat) : List (Nat × Nat) → List (Nat × Nat)
  | [] => if start ≤ lastCode then [(start, lastCode)] else []
  | (first, last) :: rest =>
      if start < first then (start, first - 1) :: gaps (last + 1) rest else gaps (last + 1) rest

/-- The codes between these two, both included, are no characters. -/
def surrogates : Nat × Nat := (0xD800, 0xDFFF)

/-- Ranges end at characters: ends that are no characters move inwards. -/
def trimRange? (range : Nat × Nat) : Option (Nat × Nat) :=
  let isSurrogate (code : Nat) : Bool := surrogates.1 ≤ code && code ≤ surrogates.2
  let start := if isSurrogate range.1 then surrogates.2 + 1 else range.1
  let stop := if isSurrogate range.2 then surrogates.1 - 1 else range.2
  if start ≤ stop then some (start, stop) else none

/-- The next character after a code. -/
def following (code : Nat) : Nat :=
  if code + 1 = surrogates.1 then surrogates.2 + 1 else code + 1

/-- The last character before a code. -/
def preceding (code : Nat) : Nat :=
  if code = surrogates.2 + 1 then surrogates.1 - 1 else code - 1

/-- The ranges between ranges, and the one after the last. Where no character lies between two
ranges, their neighbouring ends count as lying between them. -/
def between (last : Nat) : List (Nat × Nat) → List (Nat × Nat)
  | [] => if last < lastCode then [(following last, lastCode)] else []
  | (first, stop) :: rest =>
      let (low, high) := (following last, preceding first)
      (min low high, max low high) :: between stop rest

/-- The characters outside of a set. -/
def complement (set : CharacterSet) : CharacterSet :=
  match set.ranges with
  | [] => all
  | (first, stop) :: rest =>
      let before := if 0 < first then [(0, preceding first)] else []
      ⟨before ++ between stop rest⟩

/-- What two sets share lies in no gap of either. -/
def intersection (first second : CharacterSet) : CharacterSet :=
  let outside := ofRanges (gaps 0 first.ranges ++ gaps 0 second.ranges)
  ⟨(gaps 0 outside.ranges).filterMap trimRange?⟩

/-- The characters of a set that another set lacks. -/
def difference (first second : CharacterSet) : CharacterSet :=
  first.intersection ⟨gaps 0 second.ranges⟩

/-- The characters of a set that lie in no set of a list. -/
def without (set : CharacterSet) (others : List CharacterSet) : CharacterSet :=
  set.difference (unions others)

/-- The characters that lie in exactly one of two sets. -/
def symmetricDifference (first second : CharacterSet) : CharacterSet :=
  (first.union second).difference (first.intersection second)

/-- A set is written as the lengths of gaps and runs, which alternate, in hexadecimal digits. -/
def ofLengths (rows : List String) : CharacterSet :=
  let lengths := rows.flatMap fun row =>
    (Text.splitOn ' ' row).filterMap fun word => Text.natural? 16 word.toList
  let rec read (start : Nat) : List Nat → List (Nat × Nat)
    | gap :: run :: rest => (start + gap, start + gap + run - 1) :: read (start + gap + run) rest
    | [gap] => if start + gap ≤ lastCode then [(start + gap, lastCode)] else []
    | [] => []
  ⟨merge (read 0 lengths)⟩

/-- The numbers of runs are in hexadecimal digits; each comes after the name of its run. -/
def readRuns (rows : List String) : List (String × Nat) :=
  let rec pairs : List String → List (String × Nat)
    | name :: length :: rest => (name, (Text.natural? 16 length.toList).getD 0) :: pairs rest
    | _ => []
  pairs (rows.flatMap (Text.splitOn ' '))

/-- The characters of the runs whose names are among the given ones. The runs cover all codes. -/
def ofRuns (names : List String) (runs : List (String × Nat)) : CharacterSet :=
  let rec read (start : Nat) : List (String × Nat) → List (Nat × Nat)
    | [] => []
    | (name, length) :: rest =>
        if names.contains name then (start, start + length - 1) :: read (start + length) rest
        else read (start + length) rest
  ⟨merge (read 0 runs)⟩

end CharacterSet

end Graft
