/-
This file derives the properties of characters that follow from their categories and from the listed
properties.
-/

import Graft.Character.Category
import Graft.Character.Property

namespace Graft.Character

def lowercase : CharacterSet := (ofCategories ["Ll"]).union otherLowercase

def uppercase : CharacterSet := (ofCategories ["Lu"]).union otherUppercase

def cased : CharacterSet := CharacterSet.unions [lowercase, uppercase, ofCategories ["Lt"]]

def alphabetic : CharacterSet :=
  CharacterSet.unions [cased, ofCategories ["Lm", "Lo", "Nl"], otherAlphabetic]

def math : CharacterSet := (ofCategories ["Sm"]).union otherMath

/-- Signs that may stand inside a word without ending the reach of the letters around them. -/
def caseIgnorable : CharacterSet :=
  (ofCategories ["Mn", "Me", "Cf", "Lm", "Sk"]).union (CharacterSet.ofChars
    ['\u0027', '.', ':', '\u00B7', '\u0387', '\u055F', '\u05F4', '\u2018', '\u2019', '\u2024',
      '\u2027', '\uFE13', '\uFE52', '\uFE55', '\uFF07', '\uFF0E', '\uFF1A'])

def graphemeExtend : CharacterSet := (ofCategories ["Me", "Mn"]).union otherGraphemeExtend

def graphemeBase : CharacterSet :=
  CharacterSet.all.without
    [ofCategories ["Cc", "Cf", "Cs", "Co", "Cn", "Zl", "Zp"], graphemeExtend]

def idStart : CharacterSet :=
  ((ofCategories ["Lu", "Ll", "Lt", "Lm", "Lo", "Nl"]).union otherIdStart).without
    [patternSyntax, patternWhiteSpace]

def idContinue : CharacterSet :=
  (CharacterSet.unions [idStart, ofCategories ["Mn", "Mc", "Nd", "Pc"], otherIdContinue]).without
    [patternSyntax, patternWhiteSpace]

/-- The listed characters have compatible forms that could not start an identifier. -/
def xidStart : CharacterSet :=
  idStart.difference (CharacterSet.ofLengths [
    "37a 1 ab8 1 7f 1 21e7 2 cbc1 6 196 2 74 1 1 1 1 1 1 1 1 1 1 1 1 1 1 1 11f 2"])

/-- The listed characters have compatible forms that could not go on with an identifier. -/
def xidContinue : CharacterSet :=
  idContinue.difference (CharacterSet.ofLengths [
    "37a 1 2d20 2 cbc1 6 196 2 74 1 1 1 1 1 1 1 1 1 1 1 1 1 1 1"])

/-- Controls that show nothing; the ranges hold controls of annotations and of hieroglyphs, which
do show. -/
def defaultIgnorable : CharacterSet :=
  (CharacterSet.unions
    [otherDefaultIgnorableCodePoint, ofCategories ["Cf"], variationSelector]).without
    [whiteSpace, ⟨[(0xFFF9, 0xFFFB), (0x13430, 0x13440)]⟩, prependedConcatenationMark]

/-- Capital letters that are their own small forms. -/
def unchangedByLowercasing : CharacterSet := CharacterSet.ofLengths [
  "3d2 3 1d2d 1 4 1 3 3 2 3 2 1 3 5 6 1 3 1 3 2 2 2 1 1 a 2 5 1 1b2ba 1a 1a 1a 1a 1a 1a 1 1 2",
  "2 1 2 2 2 4 1 8 1a 1a 1a 2 1 4 2 8 1 7 1b 2 1 4 1 5 1 1 3 7 1b 1a 1a 1a 1a 1a 1a 1a 1a 1a",
  "1a 1a 1e 19 21 19 21 19 21 19 21 19 21 1 1965 1a 6 1a 6 1a"]

def changesWhenLowercased : CharacterSet :=
  (uppercase.union (ofCategories ["Lt"])).difference unchangedByLowercasing

/-- Small letters that are their own capital forms. -/
def unchangedByUppercasing : CharacterSet := CharacterSet.ofLengths [
  "aa 1 f 1 7d 1 54 1 1c 2 e 1 3 1 62 1 12 6 1b 1 2 1 1 1 2 3 2 1 4 1 5 2 1 1 2 2 1 7 1 2 1 1",
  "2 3 6 5 1 1 1 8 2 1a 7 2 1e 5 95 1 81 1 163 1 27 1 b73 1 c03 79 1 3 1 10 1 31 dc 2 1 1 1d1",
  "1 d 1 10 d 6d 1 3 2 3 1 1b 1 4 1 4 1 2 2 8 4 b27 1 2 1 2 7 66 1 79b7 2 92 2 3e 9 15 1 6 1",
  "19 1 23 1 1 1 1c 3 3 3 335 23 1 7 1 e 5c16 1 2 3 1 2a 1 9 cc5f 1a 1a 7 1 12 1a 1a 1a 4 1 1",
  "1 7 1 b 1a 1a 1a 1a 1a 1a 1a 1a 1a 1a 1a 1a 1a 1a 1a 1a 1a 1c 1c 19 1 6 1a 19 1 6 1a 19 1",
  "6 1a 19 1 6 1a 19 1 6 1 1 734 a 1 14 6 6 105 3e"]

def changesWhenUppercased : CharacterSet :=
  (lowercase.union (ofCategories ["Lt"])).difference unchangedByUppercasing

/-- Small letters that change when their case is folded. -/
def foldedOnly : CharacterSet := CharacterSet.ofLengths [
  "b5 1 29 1 69 1 35 1 1c5 1 7c 1 d 2 3 2 19 2 3 1 191 1 e70 6 882 9 211 2 e4 8 8 8 8 8 a 3 2",
  "1 a 3 2 1 2a 3 2 1 8b78 50 4f40 7 c 5"]

/-- The capital letters of Cherokee, to which its small letters fold. -/
def lowercasedOnly : CharacterSet := ⟨[(0x13A0, 0x13F5)]⟩

def changesWhenCasefolded : CharacterSet :=
  (changesWhenLowercased.union foldedOnly).difference lowercasedOnly

/-- Letters that have capital forms but are their own title forms. -/
def uppercasedOnly : CharacterSet := CharacterSet.ofLengths [
  "1c5 1 2 1 2 1 26 1 edd 2b 2 3 e88 8 8 8 8 8 c 1 f 1 2f 1"]

/-- Capital letters that are not their own title forms. -/
def titlecasedOnly : CharacterSet := CharacterSet.ofLengths [
  "1c4 1 2 1 2 1 26 1"]

def changesWhenTitlecased : CharacterSet :=
  (changesWhenUppercased.difference uppercasedOnly).union titlecasedOnly

def changesWhenCasemapped : CharacterSet :=
  CharacterSet.unions [changesWhenLowercased, changesWhenUppercased, changesWhenTitlecased]

/-- The characters with a derived property. -/
def derivedProperty? (name : String) : Option CharacterSet :=
  match name with
  | "alphabetic" | "alpha" => some alphabetic
  | "caseignorable" | "ci" => some caseIgnorable
  | "cased" => some cased
  | "changeswhencasefolded" | "cwcf" => some changesWhenCasefolded
  | "changeswhencasemapped" | "cwcm" => some changesWhenCasemapped
  | "changeswhenlowercased" | "cwl" => some changesWhenLowercased
  | "changeswhentitlecased" | "cwt" => some changesWhenTitlecased
  | "changeswhenuppercased" | "cwu" => some changesWhenUppercased
  | "defaultignorablecodepoint" | "di" => some defaultIgnorable
  | "graphemebase" | "grbase" => some graphemeBase
  | "graphemeextend" | "grext" => some graphemeExtend
  | "idcontinue" | "idc" => some idContinue
  | "idstart" | "ids" => some idStart
  | "lowercase" | "lower" => some lowercase
  | "math" => some math
  | "uppercase" | "upper" => some uppercase
  | "xidcontinue" | "xidc" => some xidContinue
  | "xidstart" | "xids" => some xidStart
  | _ => none

/-- The characters that have a property with a name. -/
def property? (name : String) : Option CharacterSet :=
  (derivedProperty? name).or
    ((listedProperties.find? fun entry => entry.1.contains name).map Prod.snd)

end Graft.Character
