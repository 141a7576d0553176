/-
This file reads tags, anchors and directives.
-/

import Graft.Yaml.Cursor
import Graft.Yaml.Fault
import Graft.Yaml.Token

namespace Graft.Yaml

/-- The characters of a tag; brackets and commas only stand in tags between angle brackets. -/
def isTagCharacter (verbatim : Bool) (character : Char) : Bool :=
  isNameCharacter character || ";/?:@&=+$.%!~*'()".toList.contains character ||
    (verbatim && ",[]".toList.contains character)

/-- The length of a UTF-8 sequence by its first byte. -/
def sequenceLength? (byte : Nat) : Option Nat :=
  if byte < 0x80 then some 1
  else if 0xC0 ≤ byte && byte < 0xE0 then some 2
  else if 0xE0 ≤ byte && byte < 0xF0 then some 3
  else if 0xF0 ≤ byte && byte < 0xF8 then some 4
  else none

def escapedByte? : List Char → Option (Nat × List Char)
  | '%' :: high :: low :: rest => (Text.natural? 16 [high, low]).map fun byte => (byte, rest)
  | _ => none

/-- The escaped bytes that follow the first byte of a sequence. -/
def laterBytes? : Nat → List Char → Option (Tag × List Char)
  | 0, rest => some ([], rest)
  | count + 1, rest => do
      let (byte, rest) ← escapedByte? rest
      if 0x80 ≤ byte && byte < 0xC0 then
        let (bytes, rest) ← laterBytes? count rest
        return (UInt8.ofNat byte :: bytes, rest)
      else none

/-- Escaped bytes that follow one another as those of one character do. They need not be the bytes
of a character. -/
def escapedBytes? (characters : List Char) : Option (Tag × List Char) := do
  let (byte, rest) ← escapedByte? characters
  let length ← sequenceLength? byte
  let (bytes, rest) ← laterBytes? (length - 1) rest
  return (UInt8.ofNat byte :: bytes, rest)

/-- The bytes of a tag with its escapes resolved. -/
def tagBytes (verbatim : Bool) : Nat → Tag → Cursor → Except Fault (Tag × Cursor)
  | 0, tag, cursor => .ok (tag, cursor)
  | fuel + 1, tag, cursor =>
      match cursor.next? with
      | none => .ok (tag, cursor)
      | some character =>
          if !isTagCharacter verbatim character then .ok (tag, cursor)
          else if character == '%' then
            match escapedBytes? cursor.rest with
            | some (bytes, rest) =>
                tagBytes verbatim fuel (tag ++ bytes)
                  (cursor.skip (cursor.rest.length - rest.length))
            | none => .error .badTag
          else tagBytes verbatim fuel (tag ++ Tag.ofChars [character]) (cursor.skip 1)

/-- A tag goes on after its head; the mark in front of the head is left out. -/
def readSuffix (verbatim : Bool) (head : List Char) (cursor : Cursor) :
    Except Fault (Tag × Cursor) := do
  let (tag, after) ← tagBytes verbatim (cursor.rest.length + 1) [] cursor
  if head.isEmpty && tag.isEmpty then throw .badTag
  return (Tag.untilZero (Tag.ofChars (head.drop 1) ++ tag), after)

/-- A handle is a mark, some name characters and perhaps another mark. -/
def readHandle (cursor : Cursor) : Except Fault (List Char × Cursor) :=
  if !cursor.sees '!' then .error .badTag
  else
    let (name, after) := (cursor.skip 1).takeWhile isNameCharacter
    if after.sees '!' then .ok ('!' :: name ++ ['!'], after.skip 1)
    else .ok ('!' :: name, after)

/-- A handle between two marks stands for a prefix; any other head belongs to the suffix. -/
def isNamedHandle (handle : List Char) : Bool :=
  2 ≤ handle.length && handle.getLast? == some '!'

def readTag (inFlow : Bool) (cursor : Cursor) : Except Fault (Token × Cursor) := do
  let (handle, suffix, after) ←
    if cursor.second? == some '<' then do
      let (suffix, after) ← readSuffix true [] (cursor.skip 2)
      if !after.sees '>' then throw .badTag
      pure ([], suffix, after.skip 1)
    else do
      let (handle, after) ← readHandle cursor
      if isNamedHandle handle then do
        let (suffix, after) ← readSuffix false [] after
        pure (handle, suffix, after)
      else do
        let (suffix, after) ← readSuffix false handle after
        pure (if suffix.isEmpty then ([], Tag.mark, after) else (['!'], suffix, after))
  let ended := endsWord after.next? || (inFlow && after.sees ',')
  if !ended then throw .badTag
  return (.tag (String.ofList handle) suffix, after)

/-- The name of an anchor or an alias ends before a blank or one of a few marks. -/
def readName (cursor : Cursor) : Except Fault (String × Cursor) :=
  let (name, after) := (cursor.skip 1).takeWhile isNameCharacter
  let ended := endsWord after.next? || after.holds ("?:,]\x7d%@`".toList.contains ·)
  if name.isEmpty || !ended then .error .badAnchor
  else .ok (String.ofList name, after)

/-- A version number has at most nine digits. -/
def readVersionNumber (cursor : Cursor) : Except Fault (Nat × Cursor) :=
  let (digits, after) := cursor.takeWhile Text.isDigit
  match Text.natural? 10 digits with
  | some number => if digits.length ≤ 9 then .ok (number, after) else .error .badDirective
  | none => .error .badDirective

def readVersion (cursor : Cursor) : Except Fault (Token × Cursor) := do
  let (major, cursor) ← readVersionNumber (cursor.skipWhile isBlank)
  if !cursor.sees '.' then throw .badDirective
  let (minor, cursor) ← readVersionNumber (cursor.skip 1)
  return (.version major minor, cursor)

/-- A handle of a directive is one mark alone or ends in a mark. -/
def readHandleDirective (cursor : Cursor) : Except Fault (Token × Cursor) := do
  let (handle, cursor) ← readHandle (cursor.skipWhile isBlank)
  if !(handle == ['!'] || isNamedHandle handle) then throw .badDirective
  if !cursor.holds isBlank then throw .badDirective
  let (tagPrefix, cursor) ← readSuffix true [] (cursor.skipWhile isBlank)
  if !endsWord cursor.next? then throw .badDirective
  return (.tagHandle (String.ofList handle) tagPrefix, cursor)

/-- A directive fills a line that may end in a comment. -/
def readDirective (cursor : Cursor) : Except Fault (Token × Cursor) := do
  let (name, cursor) := (cursor.skip 1).takeWhile isNameCharacter
  if name.isEmpty || !endsWord cursor.next? then throw .badDirective
  let (token, cursor) ←
    if name == "YAML".toList then readVersion cursor
    else if name == "TAG".toList then readHandleDirective cursor
    else throw .badDirective
  let cursor := (cursor.skipWhile isBlank).skipComment
  if !(cursor.atEnd || cursor.holds isBreak) then throw .badDirective
  return (token, cursor.skipBreak)

end Graft.Yaml
