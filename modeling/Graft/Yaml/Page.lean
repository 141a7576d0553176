/-
This file writes indented text and knows where on the page it stands.
-/

import Graft.Yaml.Cursor

namespace Graft.Yaml

/-- A page remembers whether a blank or only indentation stands before the next character. -/
structure Page where
  written : String
  column : Nat
  spaced : Bool
  indented : Bool

namespace Page

def blank : Page := ⟨"", 0, true, true⟩

def put (page : Page) (character : Char) : Page :=
  { page with written := page.written.push character, column := page.column + 1 }

def putAll (page : Page) (characters : List Char) : Page :=
  characters.foldl put page

def lineBreak (page : Page) : Page :=
  { page with written := page.written.push '\n', column := 0 }

/-- A break within a text starts a line with any of the break characters. -/
def putBreak (page : Page) (character : Char) : Page :=
  { page with written := page.written.push character, column := 0 }

/-- A mark stands behind a blank if it needs one. -/
def mark (page : Page) (text : String) (needsBlank keepsIndented : Bool) : Page :=
  let page := if needsBlank && !page.spaced then page.put ' ' else page
  let page := page.putAll text.toList
  { page with spaced := false, indented := page.indented && keepsIndented }

/-- The next character stands in a column with nothing but blanks before it. -/
def indentTo (page : Page) (indent : Nat) : Page :=
  let fits := page.indented && (page.column < indent || (page.column == indent && page.spaced))
  let page := if fits then page else page.lineBreak
  let page := page.putAll (List.replicate (indent - page.column) ' ')
  { page with spaced := true, indented := true }

end Page

end Graft.Yaml
