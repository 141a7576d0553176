/-
This file reads paths from text. The text is read character by character, so what was read of a
prefix does not depend on what follows.
-/

import Graft.Path.Failure

namespace Graft.Path

/-- What the next character continues: a span, an escape, a bracket that was opened at a
position, or a bracket that was just closed. -/
inductive Mode where
  | within
  | escaped
  | bracket (start : Nat) (body : List Char)
  | closed
  deriving DecidableEq, Repr

/-- The part of a path that was read, with the key that is not finished yet. -/
structure Draft where
  position : Nat
  spans : List Span
  segments : Span
  key : List Char
  mode : Mode
  deriving DecidableEq, Repr

namespace Draft

def start : Draft := ⟨0, [], [], [], .within⟩

/-- A key ends; an empty one is dropped. -/
def endKey (draft : Draft) : Draft :=
  if draft.key.isEmpty then draft
  else { draft with
    segments := draft.segments ++ [.key (String.ofList draft.key)]
    key := [] }

end Draft

/-- The segment of a bracket: digits are a position, and a text with an equals sign is a
predicate, which is split at the first one. -/
def bracketSegment (path : String) (body : List Char) : Except Failure Segment :=
  let invalid (reason : String) : Except Failure Segment :=
    .error (.invalidSegment path (String.ofList ('[' :: body ++ [']'])) reason)
  if body.isEmpty then invalid "empty brackets"
  else if body.all Text.isDigit then
    match Text.position? body with
    | some position => .ok (.index position)
    | none => invalid "index out of range"
  else match Text.cut? '=' body with
    | some (key, value) => .ok (.predicate (String.ofList key) (String.ofList value))
    | none => invalid "expected an index or a key=value predicate"

namespace Draft

/-- A span ends; it must have a segment. -/
def endSpan (path : String) (draft : Draft) (place : String) : Except Failure Draft :=
  let ended := draft.endKey
  if ended.segments.isEmpty then
    .error (.invalidSegment path "|" ("empty span " ++ place ++ " '|'"))
  else .ok { ended with spans := ended.spans ++ [ended.segments], segments := [] }

/-- One character is read where no bracket or escape is open. -/
def read (path : String) (draft : Draft) (character : Char) : Except Failure Draft :=
  match character with
  | '\\' => .ok { draft with mode := .escaped }
  | '.' => .ok { draft.endKey with mode := .within }
  | '|' => do return { ← draft.endSpan path "before" with mode := .within }
  | '[' => .ok { draft.endKey with mode := .bracket draft.position [] }
  | ']' => .error (.unexpectedCharacter path draft.position ']')
  | _ => .ok { draft with key := draft.key ++ [character] }

/-- One character is read. After a bracket only a point, a bar or another bracket may come. -/
def step (path : String) (draft : Draft) (character : Char) : Except Failure Draft := do
  let next ← match draft.mode with
    | .within => draft.read path character
    | .escaped => pure { draft with key := draft.key ++ [character], mode := .within }
    | .bracket start body =>
        if character = ']' then do
          let segment ← bracketSegment path body
          pure { draft with segments := draft.segments ++ [segment], mode := .closed }
        else pure { draft with mode := .bracket start (body ++ [character]) }
    | .closed =>
        if character = '.' ∨ character = '|' ∨ character = '[' then draft.read path character
        else throw (.unexpectedCharacter path draft.position character)
  return { next with position := draft.position + 1 }

/-- The spans at the end of the text. -/
def finish (path : String) (draft : Draft) : Except Failure (List Span) :=
  match draft.mode with
  | .escaped =>
      .error (.invalidSegment path (String.ofList draft.key) "dangling escape at end of path")
  | .bracket start _ => .error (.unclosedBracket path start)
  | _ =>
      let ended := draft.endKey
      if ended.segments.isEmpty then
        if ended.spans.isEmpty then .error .empty
        else .error (.invalidSegment path "|" "empty span after '|'")
      else .ok (ended.spans ++ [ended.segments])

end Draft

def parseSpans (text : String) : Except Failure (List Span) := do
  let draft ← text.toList.foldlM (Draft.step text) Draft.start
  draft.finish text

def parse (text : String) : Except Failure Path := do
  return ⟨← parseSpans text, text⟩

/-- A text with one span only. -/
def parseSpan (text : String) : Except Failure Span := do
  match ← parseSpans text with
  | [span] => return span
  | _ => throw (.invalidSegment text text "a single span cannot contain '|'")

/-- A trailing `%pattern%` is split off when the pattern and the path before it are not empty and
hold no blanks. -/
def splitScope (text : String) : String × Option String :=
  match text.toList.reverse with
  | '%' :: body =>
      match Text.cut? '%' body with
      | some (pattern, base) =>
          if pattern.isEmpty || base.isEmpty || pattern.any Text.isBlank ||
              base.any Text.isBlank then (text, none)
          else (String.ofList base.reverse, some (String.ofList pattern.reverse))
      | none => (text, none)
  | _ => (text, none)

end Graft.Path
