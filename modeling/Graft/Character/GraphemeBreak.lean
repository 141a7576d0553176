/-
This file sorts characters by how they take part in the clusters that users see as one character.
-/

import Graft.Character.Derived

namespace Graft.Character

namespace GraphemeBreak

def extend : CharacterSet := graphemeExtend.union emojiModifier

/-- Controls stand alone. Codes without a character that are to be ignored count as controls. -/
def control : CharacterSet :=
  ((ofCategories ["Zl", "Zp", "Cc", "Cf"]).union
    ((ofCategories ["Cn"]).intersection defaultIgnorable)).without
      [⟨[(0xA, 0xA), (0xD, 0xD), (0x200C, 0x200D)]⟩, prependedConcatenationMark, extend]

def prepend : CharacterSet :=
  prependedConcatenationMark.union ⟨[(0xD4E, 0xD4E), (0x111C2, 0x111C3), (0x113D1, 0x113D1),
    (0x1193F, 0x1193F), (0x11941, 0x11941), (0x11A3A, 0x11A3A), (0x11A84, 0x11A89),
    (0x11D46, 0x11D46), (0x11F02, 0x11F02)]⟩

/-- Spacing marks belong to the letter before them, but for those that stand on their own. -/
def spacingMark : CharacterSet :=
  ((ofCategories ["Mc"]).union (CharacterSet.ofChars ['\u0E33', '\u0EB3'])).without
    [extend, ⟨[(0x102B, 0x102C), (0x1038, 0x1038), (0x1062, 0x1064), (0x1067, 0x106D),
      (0x1083, 0x1083), (0x1087, 0x108C), (0x108F, 0x108F), (0x109A, 0x109C), (0x1A61, 0x1A61),
      (0x1A63, 0x1A64), (0xAA7B, 0xAA7B), (0xAA7D, 0xAA7D), (0x11720, 0x11721)]⟩]

def leadingConsonant : CharacterSet := ⟨[(0x1100, 0x115F), (0xA960, 0xA97C)]⟩

def vowel : CharacterSet :=
  ⟨[(0x1160, 0x11A7), (0xD7B0, 0xD7C6), (0x16D63, 0x16D63), (0x16D67, 0x16D6A)]⟩

def trailingConsonant : CharacterSet := ⟨[(0x11A8, 0x11FF), (0xD7CB, 0xD7FB)]⟩

/-- The syllables of Hangul. -/
def syllable : CharacterSet := ⟨[(0xAC00, 0xD7A3)]⟩

/-- One syllable in twenty-eight has no trailing consonant. -/
def openSyllable : CharacterSet :=
  ⟨(List.range 399).map fun index => (0xAC00 + 28 * index, 0xAC00 + 28 * index)⟩

end GraphemeBreak

open GraphemeBreak in
/-- The characters of a kind with a name. -/
def graphemeBreak? (name : String) : Option CharacterSet :=
  match name with
  | "control" | "cn" => some control
  | "cr" => some (.singleton '\r')
  | "extend" | "ex" => some extend
  | "l" => some leadingConsonant
  | "lf" => some (.singleton '\n')
  | "lv" => some openSyllable
  | "lvt" => some (syllable.difference openSyllable)
  | "prepend" | "pp" => some prepend
  | "regionalindicator" | "ri" => some regionalIndicator
  | "spacingmark" | "sm" => some spacingMark
  | "t" => some trailingConsonant
  | "v" => some vowel
  | "zwj" => some (.singleton '\u200D')
  | _ => none

end Graft.Character
