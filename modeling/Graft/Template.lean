/-
This file renders templates, which combine several values into one text.
-/

import Graft.Text

namespace Graft.Template

/-- Why a template cannot be rendered. -/
inductive Failure where
  | unsupportedAction (template action : String)
  | unclosed (template : String)
  | missingValue (index count : Nat)
  deriving DecidableEq, Repr

/-- The characters that open and close an action. -/
def opening : String := "\x7b\x7b"

def closing : String := "\x7d\x7d"

def Failure.message : Failure → String
  | .unsupportedAction template action =>
      "unsupported template action '" ++ opening ++ action ++ closing ++ "' in '" ++ template ++ "'"
  | .unclosed template => "unclosed '" ++ opening ++ "' in template '" ++ template ++ "'"
  | .missingValue index count =>
      s!"template refers to value {index} but only {count} values were resolved"

/-- The body of an action up to its end, which lies in the same line, and the text after it. -/
def cutBody? : List Char → Option (List Char × List Char)
  | '}' :: '}' :: rest => some ([], rest)
  | character :: rest =>
      if character = '\n' then none
      else (cutBody? rest).map fun (body, after) => (character :: body, after)
  | [] => none

/-- The first action of a text: what stands before it, its body, and what follows it. -/
def cutAction? : List Char → Option (List Char × List Char × List Char)
  | [] => none
  | character :: rest =>
      let later := (cutAction? rest).map fun (before, body, after) =>
        (character :: before, body, after)
      match character, rest with
      | '{', '{' :: inner =>
          match cutBody? inner with
          | some (body, after) => some ([], body, after)
          | none => later
      | _, _ => later

theorem cutBody?_length {text body after : List Char} (found : cutBody? text = some (body, after)) :
    after.length < text.length := by
  induction text using cutBody?.induct generalizing body after with
  | case1 rest =>
      simp only [cutBody?, Option.some.injEq, Prod.mk.injEq] at found
      rw [← found.2]
      simp only [List.length_cons]
      omega
  | case2 rest different => simp [cutBody?] at found
  | case3 character rest different notBreak inductionHypothesis =>
      rw [cutBody?] at found
      · simp only [if_neg notBreak, Option.map_eq_some_iff] at found
        obtain ⟨⟨first, last⟩, foundLater, equal⟩ := found
        simp only [Prod.mk.injEq] at equal
        have shorter := inductionHypothesis foundLater
        rw [← equal.2]
        simp only [List.length_cons]
        omega
      · exact different
  | case4 => simp [cutBody?] at found

theorem cutAction?_length {text before body after : List Char}
    (found : cutAction? text = some (before, body, after)) : after.length < text.length := by
  induction text generalizing before body after with
  | nil => simp [cutAction?] at found
  | cons character rest inductionHypothesis =>
      have later : ∀ {before body after : List Char},
          ((cutAction? rest).map fun (before, body, after) =>
            (character :: before, body, after)) = some (before, body, after) →
          after.length < (character :: rest).length := by
        intro before body after foundLater
        rw [Option.map_eq_some_iff] at foundLater
        obtain ⟨⟨first, middle, last⟩, inRest, equal⟩ := foundLater
        simp only [Prod.mk.injEq] at equal
        have shorter := inductionHypothesis inRest
        rw [← equal.2.2]
        simp only [List.length_cons]
        omega
      unfold cutAction? at found
      split at found
      · rename_i inner
        split at found
        · rename_i foundBody
          have shorter := cutBody?_length foundBody
          simp only [Option.some.injEq, Prod.mk.injEq] at found
          rw [← found.2.2]
          simp only [List.length_cons]
          omega
        · exact later found
      · exact later found

/-- The text after the words that may stand before the position. -/
def afterWords (characters : List Char) : List Char :=
  let index := "index".toList
  let values := ".Values".toList
  let rest := characters.drop index.length
  let name := rest.dropWhile Text.isBlank
  let last := name.drop values.length
  if index.isPrefixOf characters && rest.head?.any Text.isBlank && values.isPrefixOf name &&
      last.head?.any Text.isBlank then last.dropWhile Text.isBlank
  else characters

/-- The position that an action asks for. -/
def position? (body : List Char) : Option Nat :=
  Text.position? (afterWords (Text.trim body))

/-- The value of an action. -/
def actionValue (template : String) (values : List String) (body : List Char) :
    Except Failure String :=
  match position? body with
  | none => .error (.unsupportedAction template (String.ofList body))
  | some index =>
      match values[index]? with
      | some value => .ok value
      | none => .error (.missingValue index values.length)

def hasOpening : List Char → Bool
  | '{' :: '{' :: _ => true
  | _ :: rest => hasOpening rest
  | [] => false

/-- The rest of a template. Each action is replaced by its value, and the values are not looked
at again. -/
def renderFrom (template : String) (values : List String) (characters : List Char) :
    Except Failure (List Char) :=
  match _found : cutAction? characters with
  | none => if hasOpening characters then .error (.unclosed template) else .ok characters
  | some (before, body, after) => do
      let value ← actionValue template values body
      let rest ← renderFrom template values after
      return before ++ value.toList ++ rest
  termination_by characters.length
  decreasing_by exact cutAction?_length _found

/-- A renderer combines values as a template says. -/
abbrev Renderer := String → List String → Except Failure String

/-- The renderer that puts values by their positions. -/
def render : Renderer := fun template values =>
  (renderFrom template values template.toList).map String.ofList

end Graft.Template
