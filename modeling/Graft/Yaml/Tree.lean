/-
This file reads tokens into the trees of a document stream.
-/

import Graft.Entries
import Graft.Yaml.Token.Scan

namespace Graft.Yaml

/-- What may stand in front of a node: the number of an anchor, and a tag. -/
structure Properties where
  anchor : Option Nat
  tag : Option Tag
  deriving Repr

/-- A tree is a document before its scalars are typed and its aliases are followed. -/
inductive Tree where
  | scalar (properties : Properties) (text : String) (style : Style)
  | sequence (properties : Properties) (items : List Tree)
  | mapping (properties : Properties) (entries : List (Tree × Tree))
  | alias (anchor : Nat)
  deriving Repr

namespace Tree

def properties? : Tree → Option Properties
  | .scalar properties .. => some properties
  | .sequence properties _ => some properties
  | .mapping properties _ => some properties
  | .alias _ => none

/-- An empty scalar stands where a node is left out. -/
def absent : Tree := .scalar ⟨none, none⟩ "" .plain

mutual

/-- The trees that carry anchors, in the order in which they start. -/
def anchored : Tree → List (Nat × Tree)
  | tree@(.scalar properties ..) => (properties.anchor.map fun anchor => (anchor, tree)).toList
  | tree@(.sequence properties items) =>
      (properties.anchor.map fun anchor => (anchor, tree)).toList ++ anchoredItems items
  | tree@(.mapping properties entries) =>
      (properties.anchor.map fun anchor => (anchor, tree)).toList ++ anchoredEntries entries
  | .alias _ => []

def anchoredItems : List Tree → List (Nat × Tree)
  | [] => []
  | item :: rest => anchored item ++ anchoredItems rest

def anchoredEntries : List (Tree × Tree) → List (Nat × Tree)
  | [] => []
  | (key, value) :: rest => anchored key ++ anchored value ++ anchoredEntries rest

end

mutual

/-- The count of marks in a tree: one for a leaf, and a start and an end for a collection. -/
def marks : Tree → Nat
  | .scalar .. => 1
  | .alias _ => 1
  | .sequence _ items => 2 + marksOfItems items
  | .mapping _ entries => 2 + marksOfEntries entries

def marksOfItems : List Tree → Nat
  | [] => 0
  | item :: rest => marks item + marksOfItems rest

def marksOfEntries : List (Tree × Tree) → Nat
  | [] => 0
  | (key, value) :: rest => marks key + marks value + marksOfEntries rest

end

end Tree

/-- The state of reading one stream of tokens. The handles and anchors are those of the
current document. -/
structure Reading where
  tokens : List Token
  fault? : Option Fault
  handles : List (String × Tag)
  anchors : List (String × Nat)

abbrev Reader := StateT Reading (Except Fault)

namespace Reader

def peek : Reader Token := do
  let reading ← get
  match reading.tokens with
  | token :: _ => return token
  | [] => throw (reading.fault?.getD .unexpectedToken)

def advance : Reader Unit := modify fun reading => { reading with tokens := reading.tokens.tail }

/-- The tag with its handle replaced by the prefix that the handle stands for. -/
def resolveTag (handle : String) (suffix : Tag) : Reader Tag := do
  if handle.isEmpty then return suffix
  match Entries.find? handle (← get).handles with
  | some tagPrefix => return tagPrefix ++ suffix
  | none => throw .undefinedHandle

/-- An anchor is numbered by the names that were seen before it. A name that comes again
can share its number with the next new name, and then the later tree has the number. -/
def numberAnchor (name : String) : Reader Nat := do
  let reading ← get
  let number := reading.anchors.length
  set { reading with anchors := Entries.put name number reading.anchors }
  return number

def readAnchor? : Reader (Option String) := do
  match ← peek with
  | .anchor name => advance; return some name
  | _ => return none

def readTag? : Reader (Option Tag) := do
  match ← peek with
  | .tag handle suffix => advance; return some (← resolveTag handle suffix)
  | _ => return none

/-- An anchor and a tag may come in either order. -/
def readProperties : Reader (Option String × Option Tag) := do
  match ← readAnchor? with
  | some anchor => return (some anchor, ← readTag?)
  | none =>
      match ← readTag? with
      | some tag => return (← readAnchor?, some tag)
      | none => return (none, none)

/-- Whether a token ends the entry of a block mapping or of a sequence within one. -/
def endsBlockEntry : Token → Bool
  | .key => true
  | .value => true
  | .blockEnd => true
  | _ => false

def endsBlockItem : Token → Bool
  | .entry => true
  | .blockEnd => true
  | _ => false

def numbered (properties : Option String × Option Tag) : Reader Properties := do
  let anchor ← match properties.1 with
    | some name => do pure (some (← numberAnchor name))
    | none => pure none
  return ⟨anchor, properties.2⟩

/-- An anchor that was not defined before cannot be referred to. -/
def readAlias (name : String) : Reader Tree := do
  advance
  match Entries.find? name (← get).anchors with
  | some number => return .alias number
  | none => throw .undefinedAnchor

def readScalar (properties : Option String × Option Tag) (text : String) (style : Style) :
    Reader Tree := do
  advance
  return .scalar (← numbered properties) text style

mutual

/-- A node. Block collections start only in a block, and an indentless sequence only under
a key. -/
def readNode : Nat → Bool → Bool → Reader Tree
  | 0, _, _ => throw .unexpectedToken
  | fuel + 1, block, indentless => do
      match ← peek with
      | .alias name => readAlias name
      | _ =>
          let properties ← readProperties
          match ← peek with
          | .entry =>
              if indentless then
                let properties ← numbered properties
                return .sequence properties (← readIndentless fuel)
              else readAbsent properties
          | .scalar text style => readScalar properties text style
          | .openBracket =>
              let properties ← numbered properties
              advance
              return .sequence properties (← readFlowItems fuel true)
          | .openBrace =>
              let properties ← numbered properties
              advance
              return .mapping properties (← readFlowEntries fuel true)
          | .blockSequence =>
              if block then
                let properties ← numbered properties
                advance
                return .sequence properties (← readBlockItems fuel)
              else readAbsent properties
          | .blockMapping =>
              if block then
                let properties ← numbered properties
                advance
                return .mapping properties (← readBlockEntries fuel)
              else readAbsent properties
          | _ => readAbsent properties

/-- Properties alone make an empty scalar. -/
def readAbsent (properties : Option String × Option Tag) : Reader Tree := do
  if properties.1.isNone && properties.2.isNone then throw .unexpectedToken
  return .scalar (← numbered properties) "" .plain

def readBlockItems : Nat → Reader (List Tree)
  | 0 => throw .unexpectedToken
  | fuel + 1 => do
      match ← peek with
      | .entry =>
          advance
          let item ← if endsBlockItem (← peek) then pure Tree.absent
            else readNode fuel true false
          return item :: (← readBlockItems fuel)
      | .blockEnd => advance; return []
      | _ => throw .unexpectedToken

def readIndentless : Nat → Reader (List Tree)
  | 0 => throw .unexpectedToken
  | fuel + 1 => do
      match ← peek with
      | .entry =>
          advance
          let token ← peek
          let item ← if token == .entry || endsBlockEntry token then pure Tree.absent
            else readNode fuel true false
          return item :: (← readIndentless fuel)
      | _ => return []

def readBlockEntries : Nat → Reader (List (Tree × Tree))
  | 0 => throw .unexpectedToken
  | fuel + 1 => do
      match ← peek with
      | .key =>
          advance
          let key ← if endsBlockEntry (← peek) then pure Tree.absent
            else readNode fuel true true
          let value ← readBlockValue fuel
          return (key, value) :: (← readBlockEntries fuel)
      | .blockEnd => advance; return []
      | _ => throw .unexpectedToken

def readBlockValue : Nat → Reader Tree
  | 0 => throw .unexpectedToken
  | fuel + 1 => do
      match ← peek with
      | .value =>
          advance
          if endsBlockEntry (← peek) then return Tree.absent
          else readNode fuel true true
      | _ => return Tree.absent

/-- An item of a flow sequence may be a mapping of one pair without braces. -/
def readFlowItems : Nat → Bool → Reader (List Tree)
  | 0, _ => throw .unexpectedToken
  | fuel + 1, first => do
      if (← peek) == .closeBracket then advance; return []
      if !first then
        if (← peek) != .comma then throw .unexpectedToken
        advance
      match ← peek with
      | .closeBracket => advance; return []
      | .key =>
          advance
          let pair ← readFlowPair fuel
          return .mapping ⟨none, none⟩ [pair] :: (← readFlowItems fuel false)
      | _ =>
          let item ← readNode fuel false false
          return item :: (← readFlowItems fuel false)

/-- The pair of an item: a missing key takes its colon with it, so its value is absent too. -/
def readFlowPair : Nat → Reader (Tree × Tree)
  | 0 => throw .unexpectedToken
  | fuel + 1 => do
      let token ← peek
      let key ← if token == .value || token == .comma || token == .closeBracket then
          advance
          pure Tree.absent
        else readNode fuel false false
      match ← peek with
      | .value =>
          advance
          let token ← peek
          if token == .comma || token == .closeBracket then return (key, Tree.absent)
          else return (key, ← readNode fuel false false)
      | _ => return (key, Tree.absent)

def readFlowEntries : Nat → Bool → Reader (List (Tree × Tree))
  | 0, _ => throw .unexpectedToken
  | fuel + 1, first => do
      if (← peek) == .closeBrace then advance; return []
      if !first then
        if (← peek) != .comma then throw .unexpectedToken
        advance
      match ← peek with
      | .closeBrace => advance; return []
      | .key =>
          advance
          let token ← peek
          let key ← if token == .value || token == .comma || token == .closeBrace then
              pure Tree.absent
            else readNode fuel false false
          let value ← readFlowValue fuel
          return (key, value) :: (← readFlowEntries fuel false)
      | _ =>
          let key ← readNode fuel false false
          return (key, Tree.absent) :: (← readFlowEntries fuel false)

def readFlowValue : Nat → Reader Tree
  | 0 => throw .unexpectedToken
  | fuel + 1 => do
      match ← peek with
      | .value =>
          advance
          let token ← peek
          if token == .comma || token == .closeBrace then return Tree.absent
          else readNode fuel false false
      | _ => return Tree.absent

end

/-- The handles that every document knows. -/
def defaultHandles : List (String × Tag) := [("!", Tag.mark), ("!!", Tag.core "")]

/-- A document has at most one version directive, for one of the two known versions, and one
directive for each handle. -/
def readDirectives : Nat → Bool → List (String × Tag) → Reader (List (String × Tag))
  | 0, _, handles => return handles
  | fuel + 1, versioned, handles => do
      match ← peek with
      | .version major minor =>
          if versioned || major != 1 || !(minor == 1 || minor == 2) then throw .badDirective
          advance
          readDirectives fuel true handles
      | .tagHandle handle tagPrefix =>
          if (Entries.find? handle handles).isSome then throw .badDirective
          advance
          readDirectives fuel versioned (handles ++ [(handle, tagPrefix)])
      | _ => return handles

def skipDocumentEnds : Nat → Reader Unit
  | 0 => return ()
  | fuel + 1 => do
      if (← peek) == .documentEnd then
        advance
        skipDocumentEnds fuel

def isDirective : Token → Bool
  | .version .. => true
  | .tagHandle .. => true
  | _ => false

/-- The root of the next document, or `none` at the end of the stream. Only the first document
may come without its mark. -/
def readDocument (fuel : Nat) (first : Bool) : Reader (Option Tree) := do
  if !first then skipDocumentEnds fuel
  let token ← peek
  if token == .streamEnd then return none
  let implicit := first && !isDirective token && token != .documentStart
  let handles ← if implicit then pure [] else readDirectives fuel false []
  let defaults := defaultHandles.filter fun pair => (Entries.find? pair.1 handles).isNone
  modify fun reading => { reading with handles := handles ++ defaults, anchors := [] }
  if !implicit then
    if (← peek) != .documentStart then throw .unexpectedToken
    advance
  let token ← peek
  let absent := !implicit && (isDirective token || token == .documentStart ||
    token == .documentEnd || token == .streamEnd)
  let tree ← if absent then pure Tree.absent else readNode fuel true false
  if (← peek) == .documentEnd then advance
  return some tree

end Reader

/-- The documents of a stream before its first fault, if it has one. -/
structure Stream where
  documents : List Tree
  fault? : Option Fault

def Stream.readFrom (fuel : Nat) : Nat → Bool → Reading → Stream
  | 0, _, _ => ⟨[], none⟩
  | count + 1, first, reading =>
      match (Reader.readDocument fuel first).run reading with
      | .error fault => ⟨[], some fault⟩
      | .ok (none, _) => ⟨[], none⟩
      | .ok (some tree, reading) =>
          let rest := Stream.readFrom fuel count false reading
          ⟨tree :: rest.documents, rest.fault?⟩

def Stream.ofText (text : String) : Stream :=
  let tokens := Tokens.ofText text
  let fuel := 2 * tokens.list.length + 4
  Stream.readFrom fuel fuel true ⟨tokens.list, tokens.fault?, [], []⟩

end Graft.Yaml
