/-
This file chooses how a scalar is written and writes it.
-/

import Graft.Yaml.Page
import Graft.Yaml.Value

namespace Graft.Yaml

/-- The characters that may stand outside double quotes. -/
def isPrintable (character : Char) : Bool :=
  let code := character.toNat
  code == 0xA || (0x20 ≤ code && code ≤ 0x7E) || (0xA0 ≤ code && code ≤ 0xD7FF) ||
    (0xE000 ≤ code && code ≤ 0xFFFD && code != 0xFEFF) || 0x10000 ≤ code

/-- Each character with its neighbours. -/
def neighbours (before : Option Char) : List Char → List (Option Char × Char × Option Char)
  | [] => []
  | character :: rest => (before, character, rest.head?) :: neighbours (some character) rest

/-- Whether a reader could take a part of a plain text in a block for a mark. -/
def looksMarked (characters : List Char) : Bool :=
  let documentMark := ["---", "..."].any fun mark => mark.toList.isPrefixOf characters
  documentMark || (neighbours none characters).any fun (before, character, after) =>
    let ends := endsWord after
    match before with
    | none =>
        "#,[]\x7b\x7d&*!|>'\"%@`".toList.contains character ||
          ("?:-".toList.contains character && ends)
    | some before =>
        (character == ':' && ends) || (character == '#' && isBlankOrBreak before)

/-- What the text of a scalar allows. -/
structure Allowance where
  multiline : Bool
  plain : Bool
  singleQuoted : Bool
  block : Bool

def Allowance.ofText (characters : List Char) : Allowance :=
  let pairs := neighbours none characters
  let spaceOrBreak (character : Char) : Bool := character == ' ' || isBreak character
  let outerBlank := characters.head?.any spaceOrBreak || characters.getLast?.any spaceOrBreak
  let broken := characters.any isBreak
  let breakSpace := pairs.any fun (before, character, _) =>
    before.any isBreak && character == ' '
  let spaceBreak := pairs.any fun (before, character, _) =>
    before == some ' ' && isBreak character
  let special := characters.any fun character => !isPrintable character
  let quotable := !breakSpace && !spaceBreak && !special
  { multiline := broken
    plain := quotable && !outerBlank && !broken && !looksMarked characters
    singleQuoted := quotable
    block := !characters.isEmpty && characters.getLast? != some ' ' && !spaceBreak && !special }

/-- A text with several lines asks for a literal block, and one that would read as another
value asks for quotes. -/
def wantedStyle (text : String) : Style :=
  if text.toList.contains '\n' then .literal
  else if Number.isPadded text.toList then .singleQuoted
  else match Value.ofPlain text with
    | .ok (.text _) => .plain
    | _ => .singleQuoted

/-- The style that a text gets; double quotes can hold every text. -/
def chosenStyle (allowance : Allowance) (simpleKey : Bool) (wanted : Style) : Style :=
  if simpleKey && allowance.multiline then .doubleQuoted
  else match wanted with
    | .plain =>
        if allowance.plain then .plain
        else if allowance.singleQuoted then .singleQuoted else .doubleQuoted
    | .singleQuoted => if allowance.singleQuoted then .singleQuoted else .doubleQuoted
    | .literal => if allowance.block && !simpleKey then .literal else .doubleQuoted
    | .folded => if allowance.block && !simpleKey then .folded else .doubleQuoted
    | .doubleQuoted => .doubleQuoted

def writePlain (page : Page) (characters : List Char) : Page :=
  let page := if !page.spaced && !characters.isEmpty then page.put ' ' else page
  { page.putAll characters with spaced := false, indented := false }

/-- A quote is written twice. A line break is doubled, and the next line is indented. -/
def writeSingleQuoted (page : Page) (indent : Nat) (characters : List Char) : Page :=
  let opened := page.mark "'" true false
  let (page, afterBreak) := characters.foldl (fun (page, afterBreak) character =>
    if isBreak character then
      let page := if !afterBreak && character == '\n' then page.lineBreak else page
      ({ page.putBreak character with indented := true }, true)
    else if character == ' ' then (page.put ' ', afterBreak)
    else
      let page := if afterBreak then page.indentTo indent else page
      let page := if character == '\'' then page.put '\'' else page
      ({ page.put character with indented := false }, false)) (opened, false)
  let page := if afterBreak then page.indentTo indent else page
  { page.mark "'" false false with spaced := false, indented := false }

def hexDigit (value : Nat) : Char :=
  if value < 10 then Char.ofNat ('0'.toNat + value) else Char.ofNat ('A'.toNat + value - 10)

/-- A number in some hexadecimal digits. -/
def hexadecimal : Nat → Nat → List Char
  | 0, _ => []
  | width + 1, value => hexadecimal width (value / 16) ++ [hexDigit (value % 16)]

/-- The escape of a character, without the backslash. -/
def escapeOf (character : Char) : List Char :=
  match character with
  | '\x00' => ['0']
  | '\x07' => ['a']
  | '\x08' => ['b']
  | '\t' => ['t']
  | '\n' => ['n']
  | '\x0b' => ['v']
  | '\x0c' => ['f']
  | '\r' => ['r']
  | '\x1b' => ['e']
  | '"' => ['"']
  | '\\' => ['\\']
  | '\u0085' => ['N']
  | '\u00a0' => ['_']
  | '\u2028' => ['L']
  | '\u2029' => ['P']
  | _ =>
      let code := character.toNat
      if code ≤ 0xFF then 'x' :: hexadecimal 2 code
      else if code ≤ 0xFFFF then 'u' :: hexadecimal 4 code
      else 'U' :: hexadecimal 8 code

def writeDoubleQuoted (page : Page) (characters : List Char) : Page :=
  let page := characters.foldl (fun page character =>
    if !isPrintable character || isBreak character || character == '"' || character == '\\' then
      page.putAll ('\\' :: escapeOf character)
    else page.put character) (page.mark "\"" true false)
  { page.mark "\"" false false with spaced := false, indented := false }

/-- The header of a block names the indentation when the text starts with a blank, and says
what happens to the line breaks at the end. -/
def blockHints (characters : List Char) : String :=
  let starts := characters.head?.any fun character => character == ' ' || isBreak character
  let digit := if starts then "2" else ""
  match characters.reverse with
  | [] => digit ++ "-"
  | last :: rest =>
      if !isBreak last then digit ++ "-"
      else match rest with
        | [] => digit ++ "+"
        | before :: _ => if isBreak before then digit ++ "+" else digit

def writeLiteral (page : Page) (indent : Nat) (characters : List Char) : Page :=
  let page := ((page.mark "|" true false).putAll (blockHints characters).toList).lineBreak
  let page := { page with spaced := true, indented := true }
  (characters.foldl (fun (page, afterBreak) character =>
    if isBreak character then ({ page.putBreak character with indented := true }, true)
    else
      let page := if afterBreak then page.indentTo indent else page
      ({ page.put character with indented := false }, false)) (page, true)).1

def writeScalar (page : Page) (indent : Nat) (style : Style) (characters : List Char) : Page :=
  match style with
  | .plain => writePlain page characters
  | .singleQuoted => writeSingleQuoted page indent characters
  | .doubleQuoted => writeDoubleQuoted page characters
  | .literal => writeLiteral page indent characters
  | .folded => writeDoubleQuoted page characters

end Graft.Yaml
