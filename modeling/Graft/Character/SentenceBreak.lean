/-
This file sorts characters by how they take part in sentences.
-/

import Graft.Character.WordBreak

namespace Graft.Character

namespace SentenceBreak

def separator : CharacterSet := ⟨[(0x85, 0x85), (0x2028, 0x2029)]⟩

def extend : CharacterSet :=
  CharacterSet.unions [graphemeExtend, ofCategories ["Mc"], .singleton '\u200D']

def format : CharacterSet :=
  (ofCategories ["Cf"]).without
    [⟨[(0x200C, 0x200D)]⟩, graphemeExtend, WordBreak.numberSign]

def space : CharacterSet :=
  whiteSpace.without [separator, CharacterSet.ofChars ['\r', '\n']]

/-- Georgian letters have no case here. -/
def lower : CharacterSet :=
  lowercase.without [graphemeExtend, ⟨[(0x10D0, 0x10FA), (0x10FD, 0x10FF)]⟩]

def upper : CharacterSet :=
  ((ofCategories ["Lt"]).union uppercase).difference ⟨[(0x1C90, 0x1CBA), (0x1CBD, 0x1CBF)]⟩

def otherLetter : CharacterSet :=
  (alphabetic.union (CharacterSet.ofChars ['\u00A0', '\u05F3'])).without
    [lower, upper, extend, space]

def numeric : CharacterSet :=
  CharacterSet.unions
    [ofCategories ["Nd"], ⟨[(0x66B, 0x66C)]⟩, WordBreak.numberSign]

/-- A point may end a sentence or an abbreviation. -/
def point : CharacterSet := CharacterSet.ofChars ['.', '\u2024', '\uFE52', '\uFF0E']

def close : CharacterSet :=
  (ofCategories ["Ps", "Pe", "Pi", "Pf"]).union
    ⟨[(0x22, 0x22), (0x27, 0x27), (0x275B, 0x2760), (0x2E00, 0x2E01), (0x2E06, 0x2E08),
      (0x2E0B, 0x2E0B), (0x1F676, 0x1F678)]⟩

/-- Signs after which a sentence goes on. -/
def continuation : CharacterSet :=
  ⟨[(0x2C, 0x2D), (0x3A, 0x3B), (0x37E, 0x37E), (0x55D, 0x55D), (0x60C, 0x60D), (0x7F8, 0x7F8),
    (0x1802, 0x1802), (0x1808, 0x1808), (0x2013, 0x2014), (0x3001, 0x3001), (0xFE10, 0xFE11),
    (0xFE13, 0xFE14), (0xFE31, 0xFE32), (0xFE50, 0xFE51), (0xFE54, 0xFE55), (0xFE58, 0xFE58),
    (0xFE63, 0xFE63), (0xFF0C, 0xFF0D), (0xFF1A, 0xFF1B), (0xFF64, 0xFF64)]⟩

end SentenceBreak

open SentenceBreak in
/-- The characters of a kind with a name. -/
def sentenceBreak? (name : String) : Option CharacterSet :=
  match name with
  | "aterm" | "at" => some point
  | "close" | "cl" => some close
  | "cr" => some (.singleton '\r')
  | "extend" | "ex" => some extend
  | "format" | "fo" => some format
  | "lf" => some (.singleton '\n')
  | "lower" | "lo" => some lower
  | "numeric" | "nu" => some numeric
  | "oletter" | "le" => some otherLetter
  | "scontinue" | "sc" => some continuation
  | "sep" | "se" => some separator
  | "sp" => some space
  | "sterm" | "st" => some (sentenceTerminal.difference point)
  | "upper" | "up" => some upper
  | _ => none

end Graft.Character
