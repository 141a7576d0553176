/-
This file writes values as documents in block style.
-/

import Graft.Yaml.Writing

namespace Graft.Yaml

/-- A collection within another stands two columns further right. -/
def deeper : Option Nat → Nat
  | some indent => indent + 2
  | none => 0

/-- The text of a scalar continues two columns right of the collection that holds it. -/
def textIndent : Option Nat → Nat
  | some indent => indent + 2
  | none => 2

/-- The scalar of a leaf: its text and the style that it asks for. -/
def Value.leaf? : Value → Option (String × Style)
  | .null => some ("null", .plain)
  | .boolean value => some (if value then "true" else "false", .plain)
  | .number value => some (value.text, .plain)
  | .text value => some (value, wantedStyle value)
  | _ => none

/-- A tag is written with its mark. -/
def tagText (tag : String) : String :=
  if tag.toList.head? == some '!' then tag else "!" ++ tag

/-- The bytes of a character that may not stand in a tag are escaped. -/
def escapedTagCharacter (character : Char) : List Char :=
  if isTagCharacter true character && character != '%' && character != '!' then [character]
  else (String.singleton character).toUTF8.toList.flatMap fun byte =>
    '%' :: hexadecimal 2 byte.toNat

/-- A tag that is a mark alone stands between angle brackets. -/
def writeTag (page : Page) (tag : String) : Page :=
  match (tagText tag).toList with
  | ['!'] => ((page.mark "!<" true false).putAll (escapedTagCharacter '!')).mark ">" false false
  | '!' :: name => (page.mark "!" true false).putAll (name.flatMap escapedTagCharacter)
  | _ => page

def writeTag? (page : Page) : Option String → Page
  | some tag => writeTag page tag
  | none => page

/-- A key is simple if it fits one line of 128 bytes. -/
def isSimpleKey : Option String → Value → Bool
  | _, .tagged tag content => isSimpleKey (some tag) content
  | tag, value =>
      let tagLength := (tag.map fun tag => (tagText tag).utf8ByteSize).getD 0
      match value with
      | .sequence items => items.isEmpty && tagLength ≤ 128
      | .mapping entries => entries.isEmpty && tagLength ≤ 128
      | value =>
          let text := (value.leaf?.map Prod.fst).getD ""
          !text.toList.any isBreak && tagLength + text.utf8ByteSize ≤ 128

def writeLeaf (page : Page) (indent : Option Nat) (simpleKey : Bool) (tag : Option String)
    (leaf : String × Style) : Page :=
  let characters := leaf.1.toList
  let style := chosenStyle (Allowance.ofText characters) simpleKey leaf.2
  writeScalar (writeTag? page tag) (textIndent indent) style characters

mutual

/-- A sequence directly under a key is not indented any further. -/
def writeValue (indent : Option Nat) (inMapping simpleKey : Bool) (tag : Option String) :
    Value → Page → Page
  | .tagged tag content, page =>
      writeValue indent inMapping simpleKey (some tag) content page
  | .sequence [], page => ((writeTag? page tag).mark "[" true false).mark "]" false false
  | .mapping [], page => ((writeTag? page tag).mark "\x7b" true false).mark "\x7d" false false
  | .sequence (item :: rest), page =>
      let page := writeTag? page tag
      let inner := match indent with
        | some indent => if inMapping && !page.indented then indent else indent + 2
        | none => 0
      writeItems inner (item :: rest) page
  | .mapping (entry :: rest), page =>
      writeEntries (deeper indent) (entry :: rest) (writeTag? page tag)
  | .null, page => writeLeaf page indent simpleKey tag ("null", .plain)
  | .boolean value, page =>
      writeLeaf page indent simpleKey tag (if value then "true" else "false", .plain)
  | .number value, page => writeLeaf page indent simpleKey tag (value.text, .plain)
  | .text value, page => writeLeaf page indent simpleKey tag (value, wantedStyle value)

def writeItems (indent : Nat) : List Value → Page → Page
  | [], page => page
  | item :: rest, page =>
      let page := (page.indentTo indent).mark "-" true true
      writeItems indent rest (writeValue (some indent) false false none item page)

def writeEntries (indent : Nat) : List (Value × Value) → Page → Page
  | [], page => page
  | (key, value) :: rest, page =>
      let page := page.indentTo indent
      let page :=
        if isSimpleKey none key then
          (writeValue (some indent) true true none key page).mark ":" false false
        else
          let page := writeValue (some indent) true false none key (page.mark "?" true true)
          (page.indentTo indent).mark ":" true true
      writeEntries indent rest (writeValue (some indent) true false none value page)

end

/-- Whether a key opens in the same way as a mapping with one entry. -/
def Value.opensEntry : Value → Bool
  | .tagged .. => true
  | .mapping [_] => true
  | _ => false

mutual

/-- A mapping with one entry opens when its key is written. It cannot be written if its key opens in
the same way, unless a tag has opened it before. -/
def Value.isWritable (tagged : Bool) : Value → Bool
  | .tagged _ content => !tagged && Value.isWritable true content
  | .sequence items => areWritable items
  | .mapping [(key, value)] =>
      (tagged || !key.opensEntry) && Value.isWritable false key && Value.isWritable false value
  | .mapping entries => entriesAreWritable entries
  | _ => true

def areWritable : List Value → Bool
  | [] => true
  | item :: rest => Value.isWritable false item && areWritable rest

def entriesAreWritable : List (Value × Value) → Bool
  | [] => true
  | (key, value) :: rest =>
      Value.isWritable false key && Value.isWritable false value && entriesAreWritable rest

end

/-- The text of a document ends in a line break. -/
def Value.render (value : Value) : String :=
  ((writeValue none false false none value Page.blank).indentTo 0).written

end Graft.Yaml
