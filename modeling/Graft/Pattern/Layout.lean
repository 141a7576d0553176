/-
This file measures the memory that expressions take when they are laid out as automata over bytes.
-/

import Std.Data.HashMap
import Graft.Pattern.ByteRange
import Graft.Pattern.Expression

namespace Graft.Pattern

/-- The order in which an automaton reads the bytes of a text. -/
inductive Direction where
  | forwards
  | backwards
  deriving DecidableEq, Repr

/-- The count of the states that were laid out, and the memory that they take. -/
structure Layout where
  states : Nat
  memory : Nat
  deriving DecidableEq, Repr

namespace Layout

/-- A state takes this memory, each of its transitions takes more, and so does each link of a state
that leads to several others. -/
def stateSize : Nat := 32

def transitionSize : Nat := 8

def linkSize : Nat := 4

/-- The memory that one automaton may take. -/
def limit : Nat := 0xA00000

def isFull (layout : Layout) : Bool := limit < layout.memory

def charge (layout : Layout) (size : Nat) : Layout :=
  { layout with memory := layout.memory + size }

def addStates (layout : Layout) (count : Nat) : Layout :=
  ⟨layout.states + count, layout.memory + count * stateSize⟩

/-- A state with transitions for ranges of bytes. -/
def addChoice (layout : Layout) (transitions : Nat) : Layout :=
  (layout.addStates 1).charge (transitions * transitionSize)

/-- A state that leads to several others. -/
def addFork (layout : Layout) (links : Nat) : Layout :=
  (layout.addStates 1).charge (links * linkSize)

end Layout

/-- A part that was laid out. What comes after a part that ends with a fork is linked to it. -/
structure Laid where
  layout : Layout
  endsWithFork : Bool

/-- The layout when something comes after a part. -/
def Laid.followed (laid : Laid) : Layout :=
  if laid.endsWithFork then laid.layout.charge Layout.linkSize else laid.layout

/-- Laying a part out adds its states to those that are there. -/
abbrev Layer := Layout → Laid

namespace Layer

/-- States each of which leads to one other. -/
def plain (count : Nat) : Layer := fun layout => ⟨layout.addStates count, false⟩

def andThen (first second : Layer) : Layer := fun layout => second (first layout).followed

/-- More copies of a part. There is no need to go on when the layout is full. -/
def more (layer : Layer) : Nat → Laid → Laid
  | 0, laid => laid
  | count + 1, laid => if laid.layout.isFull then laid else more layer count (layer laid.followed)

/-- A part several times. No part at all is one state. -/
def exactly (layer : Layer) : Nat → Layer
  | 0 => plain 1
  | count + 1 => fun layout => more layer count (layer layout)

/-- A part or nothing. -/
def optional (layer : Layer) : Layer :=
  fun layout => ⟨(layer (layout.addFork 2)).followed.addStates 1, false⟩

/-- A part any number of times. A part that can be empty must be left before it is asked whether it
comes again. -/
def anyTimes (layer : Layer) (takesSomething : Bool) : Layer := fun layout =>
  if takesSomething then ⟨(layer (layout.addFork 1)).followed, true⟩
  else ⟨(((layer layout).followed.addFork 2).addFork 2).addStates 1, false⟩

/-- A part so many times or more, but at least once. -/
def atLeast (layer : Layer) (count : Nat) : Layer :=
  fun layout => ⟨(layer.exactly count layout).followed.addFork 1, true⟩

/-- More copies of a part, each of which may be left out together with those after it. -/
def moreOptional (layer : Layer) : Nat → Laid → Laid
  | 0, laid => laid
  | count + 1, laid =>
      if laid.layout.isFull then laid
      else moreOptional layer count (layer (laid.followed.addFork 2))

/-- A part at least and at most several times. -/
def between (layer : Layer) (least most : Nat) : Layer := fun layout =>
  let first := layer.exactly least layout
  let all := moreOptional layer (most - least)
    { first with layout := first.layout.addStates 1 }
  ⟨all.followed, false⟩

def repeated (layer : Layer) (takesSomething : Bool) : Nat → Option Nat → Layer
  | 0, none => layer.anyTimes takesSomething
  | least, none => layer.atLeast least
  | 0, some 1 => layer.optional
  | least, some most => if least = most then layer.exactly least else layer.between least most

end Layer

/-- A transition leads to a state with the bytes of a range. -/
structure Transition where
  bytes : ByteRange
  target : Nat
  deriving DecidableEq, Repr

/-- A number that is spread over a count of slots: each number of a list is mixed in and the sum is
multiplied by a prime. -/
def slot (count : Nat) (numbers : List Nat) : Nat :=
  let mixed := numbers.foldl (fun (mixed : UInt64) number =>
    (mixed ^^^ UInt64.ofNat number) * 1099511628211) 14695981039346656037
  mixed.toNat % count

/-- States that were laid out can be used again while their slots keep them. -/
structure Sharing (key : Type) where
  layout : Layout
  slots : Std.HashMap Nat (key × Nat) := {}

/-- The state that a slot keeps for a key. -/
def Sharing.state? {key : Type} [DecidableEq key] (sharing : Sharing key) (slot : Nat)
    (wanted : key) : Option Nat :=
  (sharing.slots[slot]?).bind fun (kept, state) => if kept = wanted then some state else none

/-- The state for a key: the one its slot keeps, or a new one, which its slot keeps from then on. -/
def sharedState {key : Type} [DecidableEq key] (slot : Nat) (wanted : key)
    (add : Layout → Layout) : StateM (Sharing key) Nat := fun sharing =>
  match sharing.state? slot wanted with
  | some state => (state, sharing)
  | none =>
      let ⟨layout, slots⟩ := sharing
      (layout.states, ⟨add layout, slots.insert slot (wanted, layout.states)⟩)

namespace Layer

/-- The state from which the given sequences of bytes lead to a target. Sequences with one first
range share what follows it, and states with the same transitions are one. -/
def sequencesState (target : Nat) :
    Nat → List (List ByteRange) → StateM (Sharing (List Transition)) Nat
  | 0, _ => return target
  | _, [] => return target
  | _, [[]] => return target
  | depth + 1, sequences => do
      let groups := sequences.splitBy fun first second => first.head? == second.head?
      let transitions ← groups.mapM fun group => do
        let state ← sequencesState target depth (group.map List.tail)
        return Transition.mk ((group.head?.bind List.head?).getD (0, 0)) state
      let numbers := transitions.flatMap fun transition =>
        [transition.bytes.1, transition.bytes.2, transition.target]
      sharedState (slot 10000 numbers) transitions (·.addChoice transitions.length)

/-- Forwards, the ends of sequences are shared. -/
def setForwards (sequences : List (List ByteRange)) : Layer := fun layout =>
  let (_, sharing) := (sequencesState layout.states 5 sequences).run ⟨layout.addStates 1, {}⟩
  ⟨sharing.layout, false⟩

/-- Backwards, a fork leads to the last byte of each sequence, and states for the same byte in front
of the same state are one. -/
def setBackwards (sequences : List (List ByteRange)) : Layer := fun layout =>
  let start := layout.states + 1
  let addSequence (sharing : Sharing (Nat × ByteRange)) (sequence : List ByteRange) :=
    let addByte (state : Nat) (bytes : ByteRange) : StateM (Sharing (Nat × ByteRange)) Nat :=
      sharedState (slot 1000 [state, bytes.1, bytes.2]) (state, bytes) (·.addStates 1)
    let (_, sharing) := (sequence.foldlM addByte start).run sharing
    { sharing with layout := sharing.layout.charge Layout.linkSize }
  ⟨(sequences.foldl addSequence ⟨layout.addStates 2, {}⟩).layout, false⟩

/-- A set of ASCII characters is one state. -/
def set (direction : Direction) (members : CharacterSet) : Layer :=
  if members.ranges.all fun range => range.2 < 0x80 then
    fun layout => ⟨(layout.addStates 1).addChoice members.ranges.length, false⟩
  else match direction with
    | .forwards => setForwards (byteSequences members)
    | .backwards => setBackwards (byteSequences members)

end Layer

/-- The texts between those that end. A text that ends again before any text goes on does not
count. -/
def chunks (texts : List (List UInt8)) : List (List (List UInt8)) :=
  cut false false [] texts
where
  cut (anyGoesOn anyEnds : Bool) (chunk : List (List UInt8)) :
      List (List UInt8) → List (List (List UInt8))
    | [] => [chunk.reverse]
    | [] :: rest =>
        if anyEnds && !anyGoesOn then cut anyGoesOn anyEnds chunk rest
        else chunk.reverse :: cut anyGoesOn true [] rest
    | text :: rest => cut true anyEnds (text :: chunk) rest

/-- The texts of a chunk by their first bytes, which go. -/
def byFirst (chunk : List (List UInt8)) : List (List (List UInt8)) :=
  (chunk.filterMap List.head?).eraseDups.map fun byte =>
    chunk.filterMap fun text => if text.head? = some byte then some text.tail else none

/-- Literals that share their first bytes share states. A state forks into its chunks, and into the
end between them. -/
def layTrie : Nat → List (List UInt8) → Layout → Layout
  | 0, _, layout => layout
  | depth + 1, texts, layout =>
      if texts.all List.isEmpty then layout
      else
        let chunks := (chunks texts).map byFirst
        let used := (chunks.filter fun groups => !groups.isEmpty).length
        let layout := layout.addFork (used + (chunks.length - 1))
        let layout := chunks.foldl (fun layout groups =>
          match groups.length with
          | 0 => layout
          | 1 => layout.addStates 1
          | count => layout.addChoice count) layout
        chunks.flatten.foldl (fun layout group => layTrie depth group layout) layout

def literalBytes (characters : List Char) : List UInt8 :=
  characters.flatMap String.utf8EncodeChar

def literal? : Expression → Option (List Char)
  | .literal characters => some characters
  | _ => none

/-- Two or more literals to choose from, as bytes. -/
def literals? (branches : List Expression) : Option (List (List UInt8)) :=
  match branches with
  | [] | [_] => none
  | _ => (branches.mapM literal?).map (·.map literalBytes)

def Layer.trie (direction : Direction) (texts : List (List UInt8)) : Layer := fun layout =>
  let texts := match direction with
    | .forwards => texts
    | .backwards => texts.map List.reverse
  let depth := texts.foldl (fun depth text => max depth text.length) 0
  ⟨layTrie (depth + 1) texts (layout.addStates 1), false⟩

/-- A group remembers its start and its end, but not backwards. -/
def Layer.group (direction : Direction) (body : Layer) : Layer :=
  match direction with
  | .forwards => fun layout => ⟨(body (layout.addStates 1)).followed.addStates 1, false⟩
  | .backwards => body

mutual

/-- An expression is laid out. -/
def lay (direction : Direction) : Expression → Layer
  | .nothing => .plain 1
  | .literal characters => .plain (literalBytes characters).length
  | .set members => .set direction members
  | .boundary _ => .plain 1
  | .group _ body => .group direction (lay direction body)
  | .sequence parts => laySequence direction parts
  | .choice branches =>
      match literals? branches with
      | some texts => .trie direction texts
      | none => layChoice direction branches
  | .repeated body least most? _ =>
      (lay direction body).repeated body.takesSomething least most?

def laySequence (direction : Direction) : List Expression → Layer
  | [] => .plain 1
  | [part] => lay direction part
  | part :: rest =>
      match direction with
      | .forwards => (lay direction part).andThen (laySequence direction rest)
      | .backwards => (laySequence direction rest).andThen (lay direction part)

/-- A fork leads to all branches, and all lead to one end. The first two are laid out before it. -/
def layChoice (direction : Direction) : List Expression → Layer
  | [] => .plain 1
  | [branch] => lay direction branch
  | first :: second :: rest => fun layout =>
      let layout := (lay direction second (lay direction first layout).followed).followed
      ⟨layBranches direction rest ((layout.addFork 2).addStates 1), false⟩

def layBranches (direction : Direction) : List Expression → Layout → Layout
  | [], layout => layout
  | branch :: rest, layout =>
      layBranches direction rest
        ((lay direction branch layout).followed.charge Layout.linkSize)

end

/-- In front of an expression stands a loop that skips bytes, unless a match can only begin or end
where the text does. -/
def layStart (isAnchored : Bool) : Layout :=
  if isAnchored then (Layout.mk 0 0).addStates 1
  else (((Layout.mk 0 0).addFork 2).addStates 1).addChoice 1

/-- The automaton of an expression, up to the state where it has matched. Forwards, it remembers
where the match begins and ends. -/
def layAutomaton (direction : Direction) (expression : Expression) : Layout :=
  let isAnchored := match direction with
    | .forwards => expression.beginsWith .textStart
    | .backwards => expression.endsWith .textStop
  let whole := Layer.group direction (lay direction expression)
  (whole (layStart isAnchored)).followed.addStates 1

/-- So many literals to choose from are not laid out. -/
def isDictionary : Expression → Bool
  | .choice branches => 3000 ≤ branches.length && (literals? branches).isSome
  | _ => false

/-- Whether an expression takes more memory than there is, in either direction. -/
def isTooLarge (expression : Expression) : Bool :=
  !isDictionary expression &&
    ((layAutomaton .forwards expression).isFull || (layAutomaton .backwards expression).isFull)

end Graft.Pattern
