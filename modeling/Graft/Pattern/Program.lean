/-
This file turns expressions into programs, which are followed step by step along a text.
-/

import Graft.Pattern.Expression

namespace Graft.Pattern

/-- An instruction names the instructions that may come next. A split prefers the first. -/
inductive Instruction where
  | take (members : CharacterSet) (next : Nat)
  | split (first second : Nat)
  | save (slot next : Nat)
  | check (boundary : Boundary) (next : Nat)
  | accept
  deriving Repr

abbrev Code := Array Instruction

/-- A program starts at its entry. The slots of a group are twice its number and the one after. -/
structure Program where
  code : Code
  entry : Nat

namespace Code

/-- The code with one more instruction, and the place of that instruction. -/
def add (code : Code) (instruction : Instruction) : Nat × Code :=
  (code.size, code.push instruction)

/-- A split that prefers to go on with a body if it is greedy. -/
def branch (greedy : Bool) (body exit : Nat) : Instruction :=
  if greedy then .split body exit else .split exit body

/-- An emitter puts an expression in front of the place where the text goes on after it. -/
abbrev Emitter := Nat → Code → Nat × Code

/-- The characters one after another. -/
def emitLiteral (characters : List Char) : Emitter := fun exit code =>
  characters.reverse.foldl (fun (following, code) character =>
    code.add (.take (.singleton character) following)) (exit, code)

/-- The expression several times in a row. -/
def copies (emit : Emitter) : Nat → Emitter
  | 0, exit, code => (exit, code)
  | count + 1, exit, code =>
      let (entry, code) := emit exit code
      copies emit count entry code

/-- The expression up to a count of times. Each round is optional after the one before, so the
rounds are put one in front of another. -/
def optionally (emit : Emitter) (greedy : Bool) (exit : Nat) : Nat → Emitter
  | 0, following, code => (following, code)
  | count + 1, following, code =>
      let (body, code) := emit following code
      let (place, code) := code.add (branch greedy body exit)
      optionally emit greedy exit count place code

/-- A loop whose branch comes after the body: the places of the body and of the branch. -/
def loop (emit : Emitter) (greedy : Bool) (exit : Nat) (code : Code) : (Nat × Nat) × Code :=
  let (place, code) := code.add .accept
  let (body, code) := emit place code
  ((body, place), code.setIfInBounds place (branch greedy body exit))

/-- The expression any number of times but at least a given one. A body that can be empty must run
once before the loop asks whether to go on. -/
def repeatedly (emit : Emitter) (takesSomething greedy : Bool) (least : Nat) : Emitter :=
  fun exit code =>
    let ((body, place), code) := loop emit greedy exit code
    match least with
    | 0 => if takesSomething then (place, code) else code.add (branch greedy body exit)
    | least + 1 => copies emit least body code

end Code

open Code

mutual

def emit : Expression → Emitter
  | .nothing, exit, code => (exit, code)
  | .literal characters, exit, code => emitLiteral characters exit code
  | .set members, exit, code => code.add (.take members exit)
  | .boundary boundary, exit, code => code.add (.check boundary exit)
  | .group number body, exit, code =>
      let (stop, code) := code.add (.save (2 * number + 1) exit)
      let (body, code) := emit body stop code
      code.add (.save (2 * number) body)
  | .sequence parts, exit, code => emitSequence parts exit code
  | .choice branches, exit, code => emitChoice branches exit code
  | .repeated body least none greedy, exit, code =>
      repeatedly (emit body) body.takesSomething greedy least exit code
  | .repeated body least (some most) greedy, exit, code =>
      let (following, code) := optionally (emit body) greedy exit (most - least) exit code
      copies (emit body) least following code

def emitSequence : List Expression → Emitter
  | [], exit, code => (exit, code)
  | part :: rest, exit, code =>
      let (following, code) := emitSequence rest exit code
      emit part following code

def emitChoice : List Expression → Emitter
  | [], exit, code => (exit, code)
  | [branch], exit, code => emit branch exit code
  | branch :: rest, exit, code =>
      let (others, code) := emitChoice rest exit code
      let (first, code) := emit branch exit code
      code.add (.split first others)

end

def Program.ofExpression (expression : Expression) : Program :=
  let (entry, code) := emit expression 0 #[.accept]
  ⟨code, entry⟩

end Graft.Pattern
