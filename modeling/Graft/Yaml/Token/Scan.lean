/-
This file cuts the text of a document stream into tokens.
-/

import Graft.Yaml.Token.Scalar
import Graft.Yaml.Token.Tag

namespace Graft.Yaml

/-- A place where a mapping key may have begun. The key is certain once its colon is found. -/
structure Candidate where
  required : Bool
  number : Nat
  index : Nat
  line : Nat
  column : Nat

/-- A key lies in one line and has at most 1024 bytes. -/
def Candidate.isOpen (candidate : Candidate) (cursor : Cursor) : Bool :=
  cursor.line ≤ candidate.line && cursor.index ≤ candidate.index + 1024

/-- The scanner keeps the tokens in reverse. It has one candidate slot for each bracket that is
open and one for the block level, the innermost first. -/
structure Scanner where
  cursor : Cursor
  tokens : List Token
  count : Nat
  indent : Option Nat
  outerIndents : List (Option Nat)
  keyAllowed : Bool
  candidates : List (Option Candidate)

namespace Scanner

def start (characters : List Char) : Scanner :=
  ⟨Cursor.ofText characters, [], 0, none, [], true, [none]⟩

def inFlow (scanner : Scanner) : Bool := 1 < scanner.candidates.length

/-- Plain scalars start right of the enclosing indentation. -/
def textIndent (scanner : Scanner) : Nat :=
  match scanner.indent with
  | some column => column + 1
  | none => 0

def push (scanner : Scanner) (token : Token) : Scanner :=
  { scanner with tokens := token :: scanner.tokens, count := scanner.count + 1 }

/-- A token is put in front of the token with the number. -/
def insert (scanner : Scanner) (number : Nat) (token : Token) : Scanner :=
  let later := scanner.count - number
  { scanner with
    tokens := scanner.tokens.take later ++ token :: scanner.tokens.drop later
    count := scanner.count + 1 }

def skip (scanner : Scanner) (count : Nat) : Scanner :=
  { scanner with cursor := scanner.cursor.skip count }

/-- A collection in a block starts when text stands right of the enclosing indentation. -/
def openBlock (scanner : Scanner) (column number : Nat) (token : Token) : Scanner :=
  if scanner.inFlow || scanner.indent.any (fun indent => column ≤ indent) then scanner
  else
    let scanner := scanner.insert number token
    { scanner with
      indent := some column
      outerIndents := scanner.indent :: scanner.outerIndents }

/-- The collections right of a column end; without a column all of them do. -/
def closeBlocks (scanner : Scanner) (column : Option Nat) : Scanner :=
  if scanner.inFlow then scanner
  else
    let rec loop (tokens : List Token) (count : Nat) (indent : Option Nat) :
        List (Option Nat) → List Token × Nat × Option Nat × List (Option Nat)
      | [] => (tokens, count, indent, [])
      | outer :: others =>
          if indent.any fun current => column.all fun column => column < current then
            loop (.blockEnd :: tokens) (count + 1) outer others
          else (tokens, count, indent, outer :: others)
    let (tokens, count, indent, outerIndents) :=
      loop scanner.tokens scanner.count scanner.indent scanner.outerIndents
    { scanner with tokens, count, indent, outerIndents }

/-- The candidate of the innermost level is given up; a required one is an error. -/
def dropCandidate (scanner : Scanner) : Except Fault Scanner :=
  match scanner.candidates with
  | some candidate :: outer =>
      if candidate.required then .error .unfinishedKey
      else .ok { scanner with candidates := none :: outer }
  | _ => .ok scanner

/-- The next token may be a key. It must be one at the column of a block mapping. -/
def saveCandidate (scanner : Scanner) : Except Fault Scanner :=
  if !scanner.keyAllowed then .ok scanner
  else do
    let scanner ← scanner.dropCandidate
    let cursor := scanner.cursor
    let required := !scanner.inFlow && scanner.indent == some cursor.column
    let candidate : Candidate :=
      ⟨required, scanner.count, cursor.index, cursor.line, cursor.column⟩
    return { scanner with candidates := some candidate :: scanner.candidates.tail }

/-- The candidates that are still open. A required one must be. -/
def staleCandidates (cursor : Cursor) :
    List (Option Candidate) → Except Fault (List (Option Candidate))
  | [] => .ok []
  | none :: rest => do return none :: (← staleCandidates cursor rest)
  | some candidate :: rest => do
      let others ← staleCandidates cursor rest
      if candidate.isOpen cursor then return some candidate :: others
      if candidate.required then throw .unfinishedKey
      return none :: others

/-- Blanks, comments and breaks between tokens are read. In a block a new line may start a key,
and a tab must not indent it. -/
def skipGap (flow : Bool) : Nat → Bool → Cursor → Bool × Cursor
  | 0, keyAllowed, cursor => (keyAllowed, cursor)
  | fuel + 1, keyAllowed, cursor =>
      let cursor := if cursor.column == 0 && cursor.sees byteOrderMark then cursor.skip 1
        else cursor
      let tabs := flow || !keyAllowed
      let cursor := cursor.skipWhile fun character =>
        character == ' ' || (tabs && character == '\t')
      let cursor := cursor.skipComment
      if cursor.holds isBreak then
        skipGap flow fuel (if flow then keyAllowed else true) cursor.skipBreak
      else (keyAllowed, cursor)

/-- A token of some characters that neither is nor ends a key. -/
def mark (scanner : Scanner) (width : Nat) (keyAllowed : Bool) (token : Token) : Scanner :=
  { (scanner.skip width).push token with keyAllowed }

def fetchDirective (scanner : Scanner) : Except Fault Scanner := do
  let scanner ← (scanner.closeBlocks none).dropCandidate
  let (token, cursor) ← readDirective scanner.cursor
  return { scanner.push token with cursor, keyAllowed := false }

def fetchDocumentMark (scanner : Scanner) (token : Token) : Except Fault Scanner := do
  let scanner ← (scanner.closeBlocks none).dropCandidate
  return scanner.mark 3 false token

def fetchOpening (scanner : Scanner) (token : Token) : Except Fault Scanner := do
  let scanner ← scanner.saveCandidate
  return { scanner.mark 1 true token with candidates := none :: scanner.candidates }

def fetchClosing (scanner : Scanner) (token : Token) : Except Fault Scanner := do
  let scanner ← scanner.dropCandidate
  let candidates := if scanner.inFlow then scanner.candidates.tail else scanner.candidates
  return { scanner.mark 1 false token with candidates }

def fetchComma (scanner : Scanner) : Except Fault Scanner := do
  let scanner ← scanner.dropCandidate
  return scanner.mark 1 true .comma

def fetchEntry (scanner : Scanner) : Except Fault Scanner := do
  if !scanner.inFlow && !scanner.keyAllowed then throw .misplacedEntry
  let opened := scanner.openBlock scanner.cursor.column scanner.count .blockSequence
  let scanner ← opened.dropCandidate
  return scanner.mark 1 true .entry

def fetchKey (scanner : Scanner) : Except Fault Scanner := do
  if !scanner.inFlow && !scanner.keyAllowed then throw .misplacedKey
  let opened := scanner.openBlock scanner.cursor.column scanner.count .blockMapping
  let scanner ← opened.dropCandidate
  return scanner.mark 1 (!scanner.inFlow) .key

/-- A colon turns the candidate before it into a key. -/
def fetchValue (scanner : Scanner) : Except Fault Scanner :=
  match scanner.candidates with
  | some candidate :: outer =>
      let scanner := scanner.insert candidate.number .key
      let scanner := scanner.openBlock candidate.column candidate.number .blockMapping
      .ok { scanner.mark 1 false .value with candidates := none :: outer }
  | _ =>
      if scanner.inFlow then .ok (scanner.mark 1 false .value)
      else if !scanner.keyAllowed then .error .misplacedValue
      else
        let scanner := scanner.openBlock scanner.cursor.column scanner.count .blockMapping
        .ok (scanner.mark 1 true .value)

/-- A token that may be a key or come before one. -/
def fetchContent (scanner : Scanner)
    (read : Scanner → Except Fault (Token × Bool × Cursor)) : Except Fault Scanner := do
  let scanner ← scanner.saveCandidate
  let (token, keyAllowed, cursor) ← read scanner
  return { scanner.push token with cursor, keyAllowed }

def fetchName (scanner : Scanner) (token : String → Token) : Except Fault Scanner :=
  scanner.fetchContent fun scanner => do
    let (name, cursor) ← readName scanner.cursor
    return (token name, false, cursor)

def fetchTag (scanner : Scanner) : Except Fault Scanner :=
  scanner.fetchContent fun scanner => do
    let (token, cursor) ← readTag scanner.inFlow scanner.cursor
    return (token, false, cursor)

def fetchQuoted (scanner : Scanner) (single : Bool) : Except Fault Scanner :=
  scanner.fetchContent fun scanner => do
    let (text, cursor) ← readQuoted single scanner.cursor
    return (.scalar text (if single then .singleQuoted else .doubleQuoted), false, cursor)

/-- A plain scalar that ends in a line break lets a key follow. -/
def fetchPlain (scanner : Scanner) : Except Fault Scanner :=
  scanner.fetchContent fun scanner => do
    let (text, broken, cursor) ← readPlain scanner.inFlow scanner.textIndent scanner.cursor
    return (.scalar text .plain, broken, cursor)

def fetchBlock (scanner : Scanner) (literal : Bool) : Except Fault Scanner := do
  let scanner ← scanner.dropCandidate
  let (text, cursor) ← readBlock literal scanner.indent scanner.cursor
  let token := Token.scalar text (if literal then .literal else .folded)
  return { scanner.push token with cursor, keyAllowed := true }

/-- Whether a plain scalar can start with the character before the next one. -/
def startsPlain (inFlow : Bool) (character : Char) (after : Option Char) : Bool :=
  if character == '-' then !after.any isBlank
  else if character == '?' || character == ':' then !inFlow && !endsWord after
  else !isBlankOrBreak character && !",[]\x7b\x7d#&*!|>'\"%@`".toList.contains character

/-- The end of the stream ends all collections. -/
def finish (scanner : Scanner) : Except Fault Scanner := do
  let scanner ← (scanner.closeBlocks none).dropCandidate
  return scanner.push .streamEnd

/-- The next token is read. The result is `none` at the end of the text. -/
def fetch (scanner : Scanner) : Except Fault (Option Scanner) := do
  let (keyAllowed, cursor) :=
    skipGap scanner.inFlow (scanner.cursor.rest.length + 1) scanner.keyAllowed scanner.cursor
  let candidates ← staleCandidates cursor scanner.candidates
  let scanner := { scanner with cursor, keyAllowed, candidates }
  let scanner := scanner.closeBlocks (some cursor.column)
  match cursor.next? with
  | none => return none
  | some character =>
      let second := cursor.second?
      let blankNext := endsWord second
      if cursor.column == 0 && character == '%' then return some (← scanner.fetchDirective)
      else if cursor.marksDocument '-' then
        return some (← scanner.fetchDocumentMark .documentStart)
      else if cursor.marksDocument '.' then
        return some (← scanner.fetchDocumentMark .documentEnd)
      else match character with
        | '[' => return some (← scanner.fetchOpening .openBracket)
        | '{' => return some (← scanner.fetchOpening .openBrace)
        | ']' => return some (← scanner.fetchClosing .closeBracket)
        | '}' => return some (← scanner.fetchClosing .closeBrace)
        | ',' => return some (← scanner.fetchComma)
        | '*' => return some (← scanner.fetchName .alias)
        | '&' => return some (← scanner.fetchName .anchor)
        | '!' => return some (← scanner.fetchTag)
        | '\'' => return some (← scanner.fetchQuoted true)
        | '"' => return some (← scanner.fetchQuoted false)
        | _ =>
            if character == '-' && blankNext then return some (← scanner.fetchEntry)
            else if character == '?' && (scanner.inFlow || blankNext) then
              return some (← scanner.fetchKey)
            else if character == ':' && (scanner.inFlow || blankNext) then
              return some (← scanner.fetchValue)
            else if character == '|' && !scanner.inFlow then
              return some (← scanner.fetchBlock true)
            else if character == '>' && !scanner.inFlow then
              return some (← scanner.fetchBlock false)
            else if startsPlain scanner.inFlow character second then
              return some (← scanner.fetchPlain)
            else throw .badStart

end Scanner

/-- Tokens in the order of the text, and the fault that ends them if there is one. -/
structure Tokens where
  list : List Token
  fault? : Option Fault

/-- The tokens in front of a fault. A token that may still be a key is not certain, and neither are
those after it. -/
def Scanner.fail (scanner : Scanner) (fault : Fault) : Tokens :=
  let open? (candidate : Candidate) : Option Nat :=
    if candidate.isOpen scanner.cursor then some candidate.number else none
  let certain := (scanner.candidates.filterMap (·.bind open?)).foldl min scanner.count
  ⟨scanner.tokens.reverse.take certain, some fault⟩

def Tokens.scanFrom (cutOff : Bool) : Nat → Scanner → Tokens
  | 0, scanner => scanner.fail .badStart
  | fuel + 1, scanner =>
      match scanner.fetch with
      | .error fault => scanner.fail fault
      | .ok (some next) => Tokens.scanFrom cutOff fuel next
      | .ok none =>
          if cutOff then scanner.fail .controlCharacter
          else match scanner.finish with
            | .error fault => scanner.fail fault
            | .ok last => ⟨last.tokens.reverse, none⟩

/-- Characters are checked in blocks of this many bytes before any of a block is read. -/
def checkedBlock : Nat := 16384

/-- The part of a text before the block with its first forbidden character. -/
def checkedPart (characters : List Char) : List Char × Bool :=
  let rec firstForbidden (bytes : Nat) : List Char → Option Nat
    | [] => none
    | character :: rest =>
        if isAllowed character then firstForbidden (bytes + character.utf8Size) rest
        else some bytes
  let rec taken (bytes : Nat) : List Char → List Char
    | [] => []
    | character :: rest =>
        if bytes < character.utf8Size then []
        else character :: taken (bytes - character.utf8Size) rest
  match firstForbidden 0 characters with
  | none => (characters, false)
  | some bytes => (taken (bytes / checkedBlock * checkedBlock) characters, true)

/-- All tokens of a text. -/
def Tokens.ofText (text : String) : Tokens :=
  let (characters, cutOff) := checkedPart text.toList
  Tokens.scanFrom cutOff (2 * characters.length + 2) (Scanner.start characters)

end Graft.Yaml
