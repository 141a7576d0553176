/-
This file reads the scalars of a document.
-/

import Graft.Yaml.Cursor
import Graft.Yaml.Fault

namespace Graft.Yaml

/-- The blanks and breaks between two words of a scalar. -/
structure Gap where
  broken : Bool
  blanks : List Char
  firstBreak : List Char
  laterBreaks : List Char

def Gap.empty : Gap := ⟨false, [], [], []⟩

/-- One line break folds into a space, and of several breaks all but the first remain. -/
def Gap.folded (gap : Gap) : List Char :=
  if !gap.broken then gap.blanks
  else if gap.firstBreak == ['\n'] then
    if gap.laterBreaks.isEmpty then [' '] else gap.laterBreaks
  else gap.firstBreak ++ gap.laterBreaks

/-- A gap is read to its end. In a plain scalar a tab must not stand left of the indentation. -/
def Gap.read (indentation : Nat) : Nat → Gap → Cursor → Except Fault (Gap × Cursor)
  | 0, gap, cursor => .ok (gap, cursor)
  | fuel + 1, gap, cursor =>
      match cursor.next? with
      | none => .ok (gap, cursor)
      | some character =>
          if isBlank character then
            if gap.broken && cursor.column < indentation && character == '\t' then
              .error .tabIndentation
            else
              let gap := if gap.broken then gap
                else { gap with blanks := gap.blanks ++ [character] }
              Gap.read indentation fuel gap (cursor.skip 1)
          else if isBreak character then
            let (kept, after) := cursor.takeBreak
            let gap := if gap.broken then { gap with laterBreaks := gap.laterBreaks ++ kept }
              else { gap with broken := true, blanks := [], firstBreak := kept }
            Gap.read indentation fuel gap after
          else .ok (gap, cursor)

def isFlowMark (character : Char) : Bool :=
  character == ',' || character == '[' || character == ']' || character == '{' || character == '}'

/-- The word that a plain scalar goes on with. Within brackets a colon must not stand
right before one of their marks. -/
def plainWord (inFlow : Bool) : List Char → Option (List Char)
  | [] => some []
  | character :: rest =>
      if isBlankOrBreak character then some []
      else if inFlow && character == ':' &&
          rest.head?.any (fun after => isFlowMark after || after == '?') then none
      else if (character == ':' && endsWord rest.head?) || (inFlow && isFlowMark character) then
        some []
      else (plainWord inFlow rest).map (character :: ·)

/-- The words of a plain scalar, and whether a line break follows the last one. -/
def plainWords (inFlow : Bool) (indentation : Nat) :
    Nat → List Char → Gap → Cursor → Except Fault (List Char × Bool × Cursor)
  | 0, text, gap, cursor => .ok (text, gap.broken, cursor)
  | fuel + 1, text, gap, cursor =>
      if cursor.atDocumentMark || cursor.sees '#' then .ok (text, gap.broken, cursor)
      else match plainWord inFlow cursor.rest with
        | none => .error .badPlainScalar
        | some word =>
            let text := if word.isEmpty then text else text ++ gap.folded ++ word
            let gap := if word.isEmpty then gap else Gap.empty
            let cursor := cursor.skip word.length
            if !cursor.holds isBlankOrBreak then .ok (text, gap.broken, cursor)
            else do
              let (gap, cursor) ← Gap.read indentation (cursor.rest.length + 1) gap cursor
              if !inFlow && cursor.column < indentation then .ok (text, gap.broken, cursor)
              else plainWords inFlow indentation fuel text gap cursor

/-- A plain scalar in a block must stay right of the enclosing indentation. -/
def readPlain (inFlow : Bool) (indentation : Nat) (cursor : Cursor) :
    Except Fault (String × Bool × Cursor) := do
  let (text, broken, after) ←
    plainWords inFlow indentation (cursor.rest.length + 1) [] Gap.empty cursor
  return (String.ofList text, broken, after)

/-- The value of some hexadecimal digits. -/
def hexadecimal? (digits : List Char) : Option Nat := Text.natural? 16 digits

/-- An escape of a double quoted scalar: the character and the count of characters read. -/
def escape? : List Char → Option (Char × Nat)
  | [] => none
  | mark :: rest =>
      let coded (count : Nat) : Option (Char × Nat) :=
        if rest.length < count then none
        else (hexadecimal? (rest.take count)).bind fun code =>
          if code.isValidChar then some (Char.ofNat code, count + 1) else none
      match mark with
      | '0' => some ('\x00', 1)
      | 'a' => some ('\x07', 1)
      | 'b' => some ('\x08', 1)
      | 't' => some ('\t', 1)
      | '\t' => some ('\t', 1)
      | 'n' => some ('\n', 1)
      | 'v' => some ('\x0b', 1)
      | 'f' => some ('\x0c', 1)
      | 'r' => some ('\r', 1)
      | 'e' => some ('\x1b', 1)
      | ' ' => some (' ', 1)
      | '"' => some ('"', 1)
      | '/' => some ('/', 1)
      | '\\' => some ('\\', 1)
      | 'N' => some ('\u0085', 1)
      | '_' => some ('\u00a0', 1)
      | 'L' => some ('\u2028', 1)
      | 'P' => some ('\u2029', 1)
      | 'x' => coded 2
      | 'u' => coded 4
      | 'U' => coded 8
      | _ => none

/-- The word of a quoted scalar, and whether an escaped line break ends it. -/
def quotedWord (single : Bool) :
    Nat → List Char → Cursor → Except Fault (List Char × Bool × Cursor)
  | 0, text, cursor => .ok (text, false, cursor)
  | fuel + 1, text, cursor =>
      match cursor.rest with
      | [] => .ok (text, false, cursor)
      | character :: rest =>
          if isBlankOrBreak character then .ok (text, false, cursor)
          else if single && character == '\'' then
            if rest.head? == some '\'' then
              quotedWord single fuel (text ++ ['\'']) (cursor.skip 2)
            else .ok (text, false, cursor)
          else if !single && character == '"' then .ok (text, false, cursor)
          else if !single && character == '\\' then
            if rest.head?.any isBreak then .ok (text, true, (cursor.skip 1).skipBreak)
            else match escape? rest with
              | some (escaped, count) =>
                  quotedWord single fuel (text ++ [escaped]) (cursor.skip (count + 1))
              | none => .error .badEscape
          else quotedWord single fuel (text ++ [character]) (cursor.skip 1)

def quotedWords (single : Bool) :
    Nat → List Char → Cursor → Except Fault (List Char × Cursor)
  | 0, _, _ => .error .unfinishedQuote
  | fuel + 1, text, cursor =>
      if cursor.atDocumentMark || cursor.atEnd then .error .unfinishedQuote
      else do
        let (word, escapedBreak, cursor) ←
          quotedWord single (cursor.rest.length + 1) [] cursor
        let text := text ++ word
        if cursor.sees (if single then '\'' else '"') then return (text, cursor.skip 1)
        let start := { Gap.empty with broken := escapedBreak }
        let (gap, cursor) ← Gap.read 0 (cursor.rest.length + 1) start cursor
        quotedWords single fuel (text ++ gap.folded) cursor

/-- A quoted scalar is read from its opening quote to behind its closing one. -/
def readQuoted (single : Bool) (cursor : Cursor) : Except Fault (String × Cursor) := do
  let (text, after) ← quotedWords single (cursor.rest.length + 1) [] (cursor.skip 1)
  return (String.ofList text, after)

/-- What happens to the line breaks at the end of a block scalar. -/
inductive Chomping where
  | strip
  | clip
  | keep
  deriving DecidableEq

def chomping? (cursor : Cursor) : Option Chomping × Cursor :=
  if cursor.sees '+' then (some .keep, cursor.skip 1)
  else if cursor.sees '-' then (some .strip, cursor.skip 1)
  else (none, cursor)

/-- The digit that fixes the indentation of a block scalar is not zero. -/
def increment? (cursor : Cursor) : Except Fault (Option Nat × Cursor) :=
  match cursor.next? with
  | some character =>
      if character == '0' then .error .badBlockHeader
      else if Text.isDigit character then .ok (Text.digit? character, cursor.skip 1)
      else .ok (none, cursor)
  | none => .ok (none, cursor)

/-- The chomping mark and the indentation digit may come in either order. -/
def blockHeader (cursor : Cursor) : Except Fault (Chomping × Option Nat × Cursor) :=
  match chomping? cursor with
  | (some chomping, cursor) => do
      let (increment, cursor) ← increment? cursor
      return (chomping, increment, cursor)
  | (none, cursor) => do
      let (increment, cursor) ← increment? cursor
      if increment.isNone then return (.clip, none, cursor)
      let (chomping, cursor) := chomping? cursor
      return (chomping.getD .clip, increment, cursor)

/-- The empty lines before a line with text, and the widest column among them. Without an
indentation all spaces are read. -/
def blockBreaks (indentation : Option Nat) :
    Nat → List Char → Nat → Cursor → Except Fault (List Char × Nat × Cursor)
  | 0, breaks, widest, cursor => .ok (breaks, widest, cursor)
  | fuel + 1, breaks, widest, cursor =>
      let inside (column : Nat) : Bool := indentation.all fun limit => column < limit
      let spaces := (cursor.rest.takeWhile (· == ' ')).length
      let count := match indentation with
        | none => spaces
        | some limit => min spaces (limit - cursor.column)
      let cursor := cursor.skip count
      let widest := max widest cursor.column
      if inside cursor.column && cursor.sees '\t' then .error .tabIndentation
      else if !cursor.holds isBreak then .ok (breaks, widest, cursor)
      else
        let (kept, after) := cursor.takeBreak
        blockBreaks indentation fuel (breaks ++ kept) widest after

/-- What was read of a block scalar: its text, and the breaks that are still pending. -/
structure BlockText where
  text : List Char
  firstBreak : List Char
  laterBreaks : List Char
  afterBlank : Bool

/-- The pending breaks are written before a line; a folded one turns into a space. -/
def BlockText.joined (literal startsBlank : Bool) (block : BlockText) : List Char :=
  let first :=
    if !literal && block.firstBreak == ['\n'] && !block.afterBlank && !startsBlank then
      if block.laterBreaks.isEmpty then [' '] else []
    else block.firstBreak
  block.text ++ first ++ block.laterBreaks

def blockLines (literal : Bool) (indentation : Nat) :
    Nat → BlockText → Cursor → Except Fault (BlockText × Cursor)
  | 0, block, cursor => .ok (block, cursor)
  | fuel + 1, block, cursor =>
      if cursor.column != indentation || cursor.atEnd then .ok (block, cursor)
      else do
        let startsBlank := cursor.holds isBlank
        let (line, cursor) := cursor.takeWhile fun character => !isBreak character
        let text := block.joined literal startsBlank ++ line
        let (firstBreak, cursor) := cursor.takeBreak
        let (laterBreaks, _, cursor) ←
          blockBreaks (some indentation) (cursor.rest.length + 1) [] 0 cursor
        blockLines literal indentation fuel ⟨text, firstBreak, laterBreaks, startsBlank⟩ cursor

/-- A block scalar is read from its indicator on. The enclosing indentation is `none`
outside all collections. -/
def readBlock (literal : Bool) (enclosing : Option Nat) (cursor : Cursor) :
    Except Fault (String × Cursor) := do
  let (chomping, increment, cursor) ← blockHeader (cursor.skip 1)
  let cursor := (cursor.skipWhile isBlank).skipComment
  if !(cursor.atEnd || cursor.holds isBreak) then throw .badBlockHeader
  let cursor := cursor.skipBreak
  let fixed := increment.map fun count => enclosing.getD 0 + count
  let (breaks, widest, cursor) ← blockBreaks fixed (cursor.rest.length + 1) [] 0 cursor
  let least := match enclosing with
    | some column => column + 1
    | none => 1
  let indentation := fixed.getD (max widest least)
  let (block, cursor) ←
    blockLines literal indentation (cursor.rest.length + 1) ⟨[], [], breaks, false⟩ cursor
  let tail := match chomping with
    | .strip => []
    | .clip => block.firstBreak
    | .keep => block.firstBreak ++ block.laterBreaks
  return (String.ofList (block.text ++ tail), cursor)

end Graft.Yaml
