/-
This file fixes what counts as blank text and how text is cut at a mark.
-/

namespace Graft.Text

/-- A blank is a character with the Unicode white space property. -/
def isBlank (character : Char) : Bool :=
  let code := character.toNat
  (0x9 ≤ code && code ≤ 0xD) || code == 0x20 || code == 0x85 || code == 0xA0 ||
    code == 0x1680 || (0x2000 ≤ code && code ≤ 0x200A) || code == 0x2028 ||
    code == 0x2029 || code == 0x202F || code == 0x205F || code == 0x3000

/-- The blanks at the end go. -/
def dropTrailing (characters : List Char) : List Char :=
  (characters.reverse.dropWhile isBlank).reverse

/-- The blanks at both ends go. -/
def trim (characters : List Char) : List Char :=
  dropTrailing (characters.dropWhile isBlank)

def trimmed (text : String) : String :=
  String.ofList (trim text.toList)

/-- The text before and the text after the first mark. -/
def cut? (mark : Char) : List Char → Option (List Char × List Char)
  | [] => none
  | character :: rest =>
      if character = mark then some ([], rest)
      else (cut? mark rest).map fun (before, after) => (character :: before, after)

/-- The pieces between the marks; there is one more piece than there are marks. -/
def pieces (mark : Char) : List Char → List (List Char)
  | [] => [[]]
  | character :: rest =>
      if character = mark then [] :: pieces mark rest
      else match pieces mark rest with
        | [] => [[character]]
        | piece :: others => (character :: piece) :: others

def splitOn (mark : Char) (text : String) : List String :=
  (pieces mark text.toList).map String.ofList

def isDigit (character : Char) : Bool :=
  '0' ≤ character && character ≤ '9'

/-- The value of a digit in any base up to sixteen. -/
def digit? (character : Char) : Option Nat :=
  let code := character.toNat
  if '0' ≤ character && character ≤ '9' then some (code - '0'.toNat)
  else if 'a' ≤ character && character ≤ 'f' then some (code - 'a'.toNat + 10)
  else if 'A' ≤ character && character ≤ 'F' then some (code - 'A'.toNat + 10)
  else none

def isHexDigit (character : Char) : Bool :=
  (digit? character).isSome

/-- The value of a run of digits, or nothing when a character is no digit of the base. -/
def natural? (base : Nat) (characters : List Char) : Option Nat :=
  if characters.isEmpty then none
  else characters.foldlM (fun value character =>
    (digit? character).bind fun digit =>
      if digit < base then some (value * base + digit) else none) 0

/-- The sizes and positions that a machine word of 64 bits can hold. -/
def wordLimit : Nat := 0x10000000000000000

/-- A position in decimal digits, below the word limit. -/
def position? (characters : List Char) : Option Nat :=
  (natural? 10 characters).filter (· < wordLimit)

/-- A position that may carry a plus sign. -/
def signedPosition? : List Char → Option Nat
  | '+' :: digits => position? digits
  | digits => position? digits

/-- The texts with a separator between each two. -/
def join (separator : String) (texts : List String) : String :=
  separator.intercalate texts

end Graft.Text
