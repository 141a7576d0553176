/-
This file defines the values that documents denote and builds them from trees.
-/

import Graft.Number.Reading
import Graft.Yaml.Tree

namespace Graft.Yaml

/-- A value keeps its tags, and its mappings have keys of any kind. -/
inductive Value where
  | null
  | boolean (value : Bool)
  | number (value : Number)
  | text (value : String)
  | sequence (items : List Value)
  | mapping (entries : List (Value × Value))
  | tagged (tag : String) (content : Value)
  deriving Repr

namespace Value

/-- A tagged null is null. -/
def isNull : Value → Bool
  | .null => true
  | .tagged _ content => content.isNull
  | _ => false

/-- Floating-point numbers are the same by value: both zeros are, and a number that is none
is the same as itself. -/
def sameNumber : Number → Number → Bool
  | .whole first, .whole second => first == second
  | .real first, .real second =>
      match first.shape, second.shape with
      | .finite _ 0 _, .finite _ 0 _ => true
      | .notANumber, .notANumber => true
      | _, _ => first == second
  | _, _ => false

mutual

/-- Whether two keys of a mapping are the same. The order of entries does not matter. -/
def same : Value → Value → Bool
  | .null, .null => true
  | .boolean first, .boolean second => first == second
  | .number first, .number second => sameNumber first second
  | .text first, .text second => first == second
  | .sequence first, .sequence second => sameItems first second
  | .mapping first, .mapping second =>
      first.length == second.length && sameEntries first second
  | .tagged firstTag first, .tagged secondTag second => firstTag == secondTag && same first second
  | _, _ => false

def sameItems : List Value → List Value → Bool
  | [], [] => true
  | first :: firsts, second :: seconds => same first second && sameItems firsts seconds
  | _, _ => false

def sameEntries : List (Value × Value) → List (Value × Value) → Bool
  | [], _ => true
  | (key, value) :: rest, entries =>
      (entries.any fun entry => same key entry.1 && same value entry.2) && sameEntries rest entries

end

/-- The words for null. -/
def isNullWord (text : String) : Bool :=
  text == "~" || text == "null" || text == "Null" || text == "NULL"

/-- The words for the two truth values. -/
def boolean? (text : String) : Option Bool :=
  if text == "true" || text == "True" || text == "TRUE" then some true
  else if text == "false" || text == "False" || text == "FALSE" then some false
  else none

/-- A whole number in the range of 64 bits is a number, one in the range of 128 bits is an
error, and any other is left to the floating-point numbers. -/
def whole? (text : String) : Except Fault (Option Value) :=
  match Number.whole? text.toList with
  | some value =>
      if Number.inRange value then .ok (some (.number (.whole value)))
      else if Number.inWideRange value then .error .numberOutOfRange
      else .ok none
  | none => .ok none

def real? (text : String) : Option Value :=
  (Number.real? text.toList).map fun value => .number (.real value)

/-- A plain scalar is null, a truth value or a number if it is written like one. -/
def ofPlain (text : String) : Except Fault Value := do
  if text.isEmpty || isNullWord text then return .null
  if let some value := boolean? text then return .boolean value
  if let some value ← whole? text then return value
  if Number.isPadded text.toList then return .text text
  return (real? text).getD (.text text)

def ofScalar (text : String) (style : Style) : Except Fault Value :=
  if style == .plain then ofPlain text else .ok (.text text)

/-- The core tags ask for a certain type, and any other tag makes a text of the scalar. -/
def ofTaggedScalar (tag : Tag) (text : String) : Except Fault Value :=
  let checked (value : Option Value) : Except Fault Value :=
    match value with
    | some value => .ok value
    | none => .error .badTaggedScalar
  if tag = Tag.boolean then checked ((boolean? text).map .boolean)
  else if tag = Tag.integer then do checked (← whole? text)
  else if tag = Tag.float then checked (real? text)
  else if tag = Tag.null then checked (if isNullWord text then some .null else none)
  else .ok (.text text)

end Value

/-- The anchored trees of a document, and how often its aliases may be followed. -/
structure Anchors where
  trees : List (Nat × Tree)
  limit : Nat

/-- Aliases may be followed a hundred times for each mark of the document. -/
def Anchors.ofTree (tree : Tree) : Anchors := ⟨tree.anchored.reverse, tree.marks * 100⟩

/-- Building counts the aliases that were followed. -/
abbrev Building := StateT Nat (Except Fault)

/-- The tree that an alias stands for. -/
def Anchors.follow (anchors : Anchors) : Tree → Building Tree
  | .alias number => do
      let count ← get
      if anchors.limit < count + 1 then throw .tooManyAliases
      set (count + 1)
      match anchors.trees.lookup number with
      | some tree => return tree
      | none => throw .undefinedAnchor
  | tree => return tree

namespace Value

/-- The pairs of a mapping one after another; a key must not come twice. -/
def distinct (entries : List (Value × Value)) : Except Fault (List (Value × Value)) :=
  let rec check : List (Value × Value) → Bool
    | [] => true
    | (key, _) :: rest => rest.all (fun entry => !same key entry.1) && check rest
  if check entries then .ok entries else .error .duplicateKey

/-- A scalar is read by its tag, or by its style if it has none. -/
def ofLeaf (properties : Properties) (written : String) (style : Style) : Except Fault Value :=
  match properties.tag with
  | some tag => if tag.isMarked then ofScalar written style else ofTaggedScalar tag written
  | none => ofScalar written style

/-- The value of a tree apart from its tag. The trees in a collection are built by `inner?`, which
is missing where they lie too deep. -/
def content (inner? : Option (Tree → Building Value)) : Tree → Building Value
  | .scalar properties written style => ofLeaf properties written style
  | .alias _ => throw .undefinedAnchor
  | .sequence _ items =>
      match inner? with
      | some inner => Value.sequence <$> items.mapM inner
      | none => throw .tooDeep
  | .mapping _ entries =>
      match inner? with
      | some inner => do
          let pairs ← entries.mapM fun entry => do
            let key ← inner entry.1
            let value ← inner entry.2
            pure (key, value)
          Value.mapping <$> distinct pairs
      | none => throw .tooDeep

/-- A value with the name of its tag, if it has one. -/
def named (tree : Tree) (content : Value) : Value :=
  match (tree.properties?.bind Properties.tag).bind Tag.name? with
  | some name => .tagged name content
  | none => content

/-- The value of the tree that a tree stands for. -/
def ofFollowed (anchors : Anchors) (inner? : Option (Tree → Building Value)) (tree : Tree) :
    Building Value := do
  let tree ← anchors.follow tree
  return named tree (← content inner? tree)

/-- The value of a tree, down to a depth. -/
def build (anchors : Anchors) : Nat → Tree → Building Value
  | 0 => ofFollowed anchors none
  | depth + 1 => ofFollowed anchors (some (build anchors depth))

/-- Collections may be nested this deep. -/
def depthLimit : Nat := 128

def ofTree (tree : Tree) : Except Fault Value :=
  (build (Anchors.ofTree tree) depthLimit tree).run' 0

end Value

end Graft.Yaml
