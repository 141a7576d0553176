/-
This file sorts characters by how they take part in words.
-/

import Graft.Character.Derived
import Graft.Character.Script

namespace Graft.Character

namespace WordBreak

/-- The characters of scripts with these names. -/
def ofScripts (names : List String) : CharacterSet :=
  CharacterSet.unions (names.filterMap script?)

/-- Signs that stand in front of a number and belong to it. -/
def numberSign : CharacterSet :=
  ⟨[(0x600, 0x605), (0x6DD, 0x6DD), (0x890, 0x891), (0x8E2, 0x8E2), (0x110BD, 0x110BD),
    (0x110CD, 0x110CD)]⟩

def extend : CharacterSet :=
  CharacterSet.unions [graphemeExtend, ofCategories ["Mc"], emojiModifier]

def format : CharacterSet :=
  (ofCategories ["Cf"]).without
    [⟨[(0x70F, 0x70F), (0x200B, 0x200D)]⟩, graphemeExtend, numberSign]

def katakana : CharacterSet :=
  (ofScripts ["kana"]).union
    ⟨[(0x3031, 0x3035), (0x309B, 0x309C), (0x30A0, 0x30A0), (0x30FC, 0x30FC), (0xFF70, 0xFF70)]⟩

def hebrewLetter : CharacterSet := (ofScripts ["hebr"]).intersection (ofCategories ["Lo"])

/-- Signs that count as letters. -/
def letterSign : CharacterSet :=
  ⟨[(0x2C2, 0x2C5), (0x2D2, 0x2D7), (0x2DE, 0x2DF), (0x2E5, 0x2EB), (0x2ED, 0x2ED),
    (0x2EF, 0x2FF), (0x55A, 0x55C), (0x55E, 0x55E), (0x58A, 0x58A), (0x5F3, 0x5F3),
    (0x70F, 0x70F), (0xA708, 0xA716), (0xA720, 0xA721), (0xA789, 0xA78A), (0xAB5B, 0xAB5B)]⟩

/-- The scripts that put no blanks between words are left out. -/
def letter : CharacterSet :=
  (alphabetic.union letterSign).without [ideographic, katakana, hebrewLetter, extend,
    ofScripts ["thai", "laoo", "mymr", "khmr", "tale", "talu", "lana", "tavt", "ahom", "hira"]]

def numeric : CharacterSet :=
  CharacterSet.unions [ofCategories ["Nd"], .singleton '\u066B', numberSign]

def extendNumLet : CharacterSet := (ofCategories ["Pc"]).union (.singleton '\u202F')

def midLetter : CharacterSet := CharacterSet.ofChars
  [':', '\u00B7', '\u0387', '\u055F', '\u05F4', '\u2027', '\uFE13', '\uFE55', '\uFF1A']

def midNum : CharacterSet := CharacterSet.ofChars
  [',', ';', '\u037E', '\u0589', '\u060C', '\u060D', '\u066C', '\u07F8', '\u2044', '\uFE10',
    '\uFE14', '\uFE50', '\uFE54', '\uFF0C', '\uFF1B']

def midNumLet : CharacterSet := CharacterSet.ofChars
  ['.', '\u2018', '\u2019', '\u2024', '\uFE52', '\uFF07', '\uFF0E']

def newline : CharacterSet := ⟨[(0xB, 0xC), (0x85, 0x85), (0x2028, 0x2029)]⟩

def space : CharacterSet :=
  ⟨[(0x20, 0x20), (0x1680, 0x1680), (0x2000, 0x2006), (0x2008, 0x200A), (0x205F, 0x205F),
    (0x3000, 0x3000)]⟩

end WordBreak

open WordBreak in
/-- The characters of a kind with a name. -/
def wordBreak? (name : String) : Option CharacterSet :=
  match name with
  | "aletter" | "le" => some letter
  | "cr" => some (.singleton '\r')
  | "doublequote" | "dq" => some (.singleton '\u0022')
  | "extend" => some extend
  | "extendnumlet" | "ex" => some extendNumLet
  | "format" | "fo" => some format
  | "hebrewletter" | "hl" => some hebrewLetter
  | "katakana" | "ka" => some katakana
  | "lf" => some (.singleton '\n')
  | "midletter" | "ml" => some midLetter
  | "midnum" | "mn" => some midNum
  | "midnumlet" | "mb" => some midNumLet
  | "newline" | "nl" => some newline
  | "numeric" | "nu" => some numeric
  | "regionalindicator" | "ri" => some regionalIndicator
  | "singlequote" | "sq" => some (.singleton '\u0027')
  | "wsegspace" => some space
  | "zwj" => some (.singleton '\u200D')
  | _ => none

end Graft.Character
