/-
This file writes spans as the text of a path.
-/

import Graft.Path

namespace Graft.Path

/-- The characters that separate or open segments. -/
def isMark (character : Char) : Bool :=
  character == '\\' || character == '.' || character == '|' || character == '[' ||
    character == ']'

/-- A mark in a key is written with a backslash before it. -/
def escapeKey : List Char → List Char
  | [] => []
  | character :: rest =>
      if isMark character then '\\' :: character :: escapeKey rest
      else character :: escapeKey rest

def printSegment : Segment → List Char
  | .key name => escapeKey name.toList
  | .index position => '[' :: (toString position).toList ++ [']']
  | .predicate key value => '[' :: key.toList ++ '=' :: value.toList ++ [']']

def printSpan (span : Span) : List Char :=
  ['.'].intercalate (span.map printSegment)

/-- The text that reads back as the spans. -/
def print (spans : List Span) : String :=
  String.ofList (['|'].intercalate (spans.map printSpan))

end Graft.Path
