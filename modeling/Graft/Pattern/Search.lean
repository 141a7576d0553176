/-
This file searches texts for the matches of programs. Of the matches that start first, the one
that the choices of the program prefer is found.
-/

import Std.Data.HashSet
import Graft.Pattern.Program

namespace Graft.Pattern

/-- A thread is at one place of a program and at one position of a text. The slots that were
saved last come first. -/
structure Thread where
  place : Nat
  position : Nat
  slots : List (Nat × Nat)

/-- The part of a text that a pattern matches, with the saved slots. -/
structure Match where
  start : Nat
  stop : Nat
  slots : List (Nat × Nat)
  deriving DecidableEq, Repr

/-- Whether a boundary holds at a position. -/
def holdsAt (text : Array Char) (boundary : Boundary) (position : Nat) : Bool :=
  boundary.holds (if position = 0 then none else text[position - 1]?) text[position]?

/-- The threads that follow a thread, the preferred one first, or nothing if it has matched. -/
def Thread.following (code : Code) (text : Array Char) (thread : Thread) : Option (List Thread) :=
  match code[thread.place]? with
  | some (.take members next) =>
      match text[thread.position]? with
      | some character =>
          if members.contains character then
            some [{ thread with place := next, position := thread.position + 1 }]
          else some []
      | none => some []
  | some (.split first second) =>
      some [{ thread with place := first }, { thread with place := second }]
  | some (.save slot next) =>
      some [{ thread with place := next, slots := (slot, thread.position) :: thread.slots }]
  | some (.check boundary next) =>
      if holdsAt text boundary thread.position then some [{ thread with place := next }]
      else some []
  | some .accept => none
  | none => some []

/-- The places that were visited, each with the position in the text. -/
abbrev Visits := Std.HashSet (Nat × Nat)

/-- The first thread that matches. A place is not visited twice at one position, because the
second visit would end as the first did. -/
def explore (code : Code) (text : Array Char) :
    Nat → Visits → List Thread → Visits × Option Thread
  | 0, visited, _ => (visited, none)
  | _, visited, [] => (visited, none)
  | fuel + 1, visited, thread :: others =>
      let visit := (thread.place, thread.position)
      if visited.contains visit then explore code text fuel visited others
      else
        let visited := visited.insert visit
        match thread.following code text with
        | none => (visited, some thread)
        | some threads => explore code text fuel visited (threads ++ others)

/-- Each visit adds at most two threads. -/
def exploreFuel (code : Code) (text : Array Char) : Nat :=
  2 * code.size * (text.size + 1) + 2

/-- The first match among the next starting positions. -/
def findFrom (program : Program) (text : Array Char) :
    Nat → Nat → Visits → Option Match
  | 0, _, _ => none
  | count + 1, start, visited =>
      let (visited, found) := explore program.code text (exploreFuel program.code text) visited
        [⟨program.entry, start, []⟩]
      match found with
      | some thread => some ⟨start, thread.position, thread.slots⟩
      | none => findFrom program text count (start + 1) visited

/-- The first match that starts at a position or later. -/
def find? (program : Program) (text : Array Char) (start : Nat) : Option Match :=
  findFrom program text (text.size + 1 - start) start {}

/-- The matches one after another. An empty match does not touch the match before it. -/
def matchesFrom (program : Program) (text : Array Char) : Nat → Option Nat → List Match
  | 0, _ => []
  | fuel + 1, last? =>
      let start := last?.getD 0
      match find? program text start with
      | none => []
      | some found =>
          if found.start = found.stop ∧ last? = some found.stop then
            match find? program text (start + 1) with
            | none => []
            | some found => found :: matchesFrom program text fuel (some found.stop)
          else found :: matchesFrom program text fuel (some found.stop)

/-- The part of a text that a group matched last. -/
def Match.group? (found : Match) (number : Nat) : Option (Nat × Nat) :=
  if number = 0 then some (found.start, found.stop)
  else do
    let start ← found.slots.lookup (2 * number)
    let stop ← found.slots.lookup (2 * number + 1)
    return (start, stop)

end Graft.Pattern
