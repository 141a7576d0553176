/-
This file moves a reading position through the characters of a document.
-/

import Graft.Text

namespace Graft.Yaml

def isBlank (character : Char) : Bool := character == ' ' || character == '\t'

/-- Five characters break a line. -/
def isBreak (character : Char) : Bool :=
  character == '\n' || character == '\r' || character == '\u0085' ||
    character == '\u2028' || character == '\u2029'

def isBlankOrBreak (character : Char) : Bool := isBlank character || isBreak character

/-- A word ends before a blank, a break and the end of the text. -/
def endsWord : Option Char → Bool
  | none => true
  | some character => isBlankOrBreak character

/-- The ASCII characters that names of anchors, handles and directives hold. -/
def isNameCharacter (character : Char) : Bool :=
  character.isAlphanum || character == '_' || character == '-'

/-- The characters that a document may hold. -/
def isAllowed (character : Char) : Bool :=
  let code := character.toNat
  code == 0x9 || code == 0xA || code == 0xD || (0x20 ≤ code && code ≤ 0x7E) ||
    code == 0x85 || (0xA0 ≤ code && code ≤ 0xD7FF) || (0xE000 ≤ code && code ≤ 0xFFFD) ||
    0x10000 ≤ code

/-- The byte order mark may stand at the start of a line, where it fills a column. -/
def byteOrderMark : Char := '\uFEFF'

/-- The bytes that encode some characters. -/
def byteCount (characters : List Char) : Nat :=
  characters.foldl (fun count character => count + character.utf8Size) 0

/-- A cursor holds the unread characters. The index counts the bytes of the ones that were read, and
the column counts characters. -/
structure Cursor where
  rest : List Char
  index : Nat
  line : Nat
  column : Nat

namespace Cursor

def ofText (characters : List Char) : Cursor := ⟨characters, 0, 0, 0⟩

def next? (cursor : Cursor) : Option Char := cursor.rest.head?

def second? (cursor : Cursor) : Option Char := cursor.rest.tail.head?

def sees (cursor : Cursor) (character : Char) : Bool := cursor.next? == some character

def holds (cursor : Cursor) (test : Char → Bool) : Bool := cursor.next?.any test

def atEnd (cursor : Cursor) : Bool := cursor.rest.isEmpty

/-- Some characters of one line are read. -/
def skip (cursor : Cursor) (count : Nat) : Cursor :=
  ⟨cursor.rest.drop count, cursor.index + byteCount (cursor.rest.take count), cursor.line,
    cursor.column + count⟩

/-- The characters of one line up to the first that fails the test. -/
def takeWhile (cursor : Cursor) (test : Char → Bool) : List Char × Cursor :=
  let taken := cursor.rest.takeWhile test
  (taken, cursor.skip taken.length)

def skipWhile (cursor : Cursor) (test : Char → Bool) : Cursor := (cursor.takeWhile test).2

/-- One line break is read. A carriage return with a line feed is one break, and only the
two Unicode separators keep their own character. -/
def takeBreak (cursor : Cursor) : List Char × Cursor :=
  match cursor.rest with
  | '\r' :: '\n' :: rest => (['\n'], ⟨rest, cursor.index + 2, cursor.line + 1, 0⟩)
  | character :: rest =>
      if isBreak character then
        let kept := if character == '\u2028' || character == '\u2029' then character else '\n'
        ([kept], ⟨rest, cursor.index + character.utf8Size, cursor.line + 1, 0⟩)
      else ([], cursor)
  | [] => ([], cursor)

def skipBreak (cursor : Cursor) : Cursor := cursor.takeBreak.2

/-- A comment reaches to the end of its line. -/
def skipComment (cursor : Cursor) : Cursor :=
  if cursor.sees '#' then cursor.skipWhile fun character => !isBreak character else cursor

/-- Three equal marks at the start of a line, and then the end of a word. -/
def marksDocument (cursor : Cursor) (mark : Char) : Bool :=
  cursor.column == 0 && match cursor.rest with
    | first :: second :: third :: rest =>
        first == mark && second == mark && third == mark && endsWord rest.head?
    | _ => false

def atDocumentMark (cursor : Cursor) : Bool :=
  cursor.marksDocument '-' || cursor.marksDocument '.'

end Cursor

end Graft.Yaml
