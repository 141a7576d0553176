/-
This file defines the tags of nodes.
-/

namespace Graft.Yaml

/-- A tag is kept as bytes, because its escapes can spell any bytes. -/
abbrev Tag := List UInt8

namespace Tag

def ofChars (characters : List Char) : Tag := characters.flatMap String.utf8EncodeChar

def ofText (text : String) : Tag := ofChars text.toList

/-- The tag that is a mark alone. -/
def mark : Tag := ofChars ['!']

/-- The tags with a mark are those that documents make up. -/
def isMarked (tag : Tag) : Bool := mark.isPrefixOf tag

/-- Nothing after a zero byte counts. -/
def untilZero (tag : Tag) : Tag := tag.takeWhile (· != 0)

def core (name : String) : Tag := ofText ("tag:yaml.org,2002:" ++ name)

def boolean : Tag := core "bool"

def integer : Tag := core "int"

def float : Tag := core "float"

def null : Tag := core "null"

/-- A tag without its mark, unless it is the mark alone. -/
def withoutMark (tag : Tag) : Tag :=
  if tag.isMarked && tag != mark then tag.tail else tag

/-- The name of a tag with a mark, if its bytes are a text. A second mark does not count either. -/
def name? (tag : Tag) : Option String :=
  if tag.isMarked then String.fromUTF8? ⟨tag.withoutMark.withoutMark.toArray⟩ else none

end Tag

end Graft.Yaml
