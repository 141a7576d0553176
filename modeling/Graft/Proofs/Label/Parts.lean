/-
This file states the grammar of the parts of a condition: a text is cut at the commas outside
parentheses, and it has no parts when its parentheses do not match.
-/

import Graft.Label.Parse
import Graft.Proofs.Result
import Mathlib.Data.List.Basic

namespace Graft.Label

/-- A character within a part opens or closes parentheses, or it is another one that does not end
the part. The two sides tell whether the text is inside parentheses before and after it. -/
inductive Passes : Bool → Char → Bool → Prop where
  | opens : Passes false '(' true
  | closes : Passes true ')' false
  | stays {inside : Bool} {character : Char} (unopened : character ≠ '(')
      (unclosed : character ≠ ')') (uncut : inside = false → character ≠ ',') :
      Passes inside character inside

/-- A part, or the rest of one that starts inside parentheses. It ends outside of them. -/
inductive IsPart : Bool → List Char → Prop where
  | nil : IsPart false []
  | cons {inside after : Bool} {character : Char} {rest : List Char}
      (passes : Passes inside character after) (later : IsPart after rest) :
      IsPart inside (character :: rest)

/-- A character in front of the first part. -/
def extended (character : Char) : List (List Char) → List (List Char)
  | [] => [[character]]
  | part :: others => (character :: part) :: others

/-- The first character decides how the rest is split. -/
theorem splitParts_cons (inside : Bool) (character : Char) (rest : List Char) :
    splitParts inside (character :: rest) =
      if character = '(' then
        if inside then .error .nestedParenthesis
        else (splitParts true rest).map (extended character)
      else if character = ')' then
        if inside then (splitParts false rest).map (extended character)
        else .error .unbalancedParenthesis
      else if character = ',' ∧ inside = false then (splitParts false rest).map ([] :: ·)
      else (splitParts inside rest).map (extended character) := by
  cases inside <;> rfl

/-- A character within a part goes in front of the first part of the rest. -/
theorem Passes.splitParts_eq {inside after : Bool} {character : Char}
    (passes : Passes inside character after) (rest : List Char) :
    splitParts inside (character :: rest) = (splitParts after rest).map (extended character) := by
  cases passes with
  | opens => rfl
  | closes => rfl
  | stays unopened unclosed uncut =>
      have within : ¬ (character = ',' ∧ inside = false) := fun cut => uncut cut.2 cut.1
      rw [splitParts_cons, if_neg unopened, if_neg unclosed, if_neg within]

/-- A part is cut off at the comma behind it. -/
theorem IsPart.splitParts_append {inside : Bool} {part : List Char} (isPart : IsPart inside part)
    (rest : List Char) :
    splitParts inside (part ++ ',' :: rest) = (splitParts false rest).map (part :: ·) := by
  induction isPart with
  | nil => rfl
  | cons passes _ inductionHypothesis =>
      rw [List.cons_append, passes.splitParts_eq, inductionHypothesis]
      cases splitParts false rest <;> rfl

/-- A part is its only part. -/
theorem IsPart.splitParts_eq {inside : Bool} {part : List Char} (isPart : IsPart inside part) :
    splitParts inside part = .ok [part] := by
  induction isPart with
  | nil => rfl
  | cons passes _ inductionHypothesis =>
      rw [passes.splitParts_eq, inductionHypothesis]
      rfl

/-- Characters that neither end a part nor belong to parentheses may stand in front of one. -/
theorem IsPart.append {inside : Bool} {front rest : List Char}
    (plain : ∀ character ∈ front, Passes inside character inside) (later : IsPart inside rest) :
    IsPart inside (front ++ rest) := by
  induction front with
  | nil => exact later
  | cons first front inductionHypothesis =>
      obtain ⟨firstPlain, restPlain⟩ := List.forall_mem_cons.mp plain
      exact .cons firstPlain (inductionHypothesis restPlain)

/-- Blanks are a part. -/
theorem isPart_blank {text : List Char}
    (blank : ∀ character ∈ text, Text.isBlank character = true) : IsPart false text := by
  have part : IsPart false (text ++ []) := by
    refine .append (fun character member => ?_) .nil
    apply Passes.stays
    · rintro rfl
      exact absurd (blank _ member) (by decide)
    · rintro rfl
      exact absurd (blank _ member) (by decide)
    · rintro - rfl
      exact absurd (blank _ member) (by decide)
  rwa [List.append_nil] at part

/-- The first part of a split text starts where the text does, and the others start outside
parentheses. The commas between them are all that is left out. -/
theorem isPart_of_splitParts {inside : Bool} {text : List Char} {parts : List (List Char)}
    (split : splitParts inside text = .ok parts) :
    ∃ first others, parts = first :: others ∧ IsPart inside first ∧
      (∀ part ∈ others, IsPart false part) ∧ text = [','].intercalate parts := by
  induction text generalizing inside parts with
  | nil =>
      cases inside with
      | true => cases split
      | false =>
          cases split
          exact ⟨[], [], rfl, .nil, by simp, rfl⟩
  | cons character rest inductionHypothesis =>
      have passed {after : Bool} (passes : Passes inside character after) :
          ∃ first others, parts = first :: others ∧ IsPart inside first ∧
            (∀ part ∈ others, IsPart false part) ∧
              character :: rest = [','].intercalate parts := by
        rw [passes.splitParts_eq] at split
        obtain ⟨restParts, restSplit, rfl⟩ := Result.map_eq_ok.mp split
        obtain ⟨first, others, rfl, isPart, each, rfl⟩ := inductionHypothesis restSplit
        refine ⟨character :: first, others, rfl, .cons passes isPart, each, ?_⟩
        cases others <;> simp [extended]
      by_cases opening : character = '('
      · subst opening
        cases inside with
        | true => cases split
        | false => exact passed .opens
      by_cases closing : character = ')'
      · subst closing
        cases inside with
        | true => exact passed .closes
        | false => cases split
      by_cases cut : character = ',' ∧ inside = false
      · obtain ⟨rfl, rfl⟩ := cut
        obtain ⟨restParts, restSplit, rfl⟩ := Result.map_eq_ok.mp split
        obtain ⟨first, others, rfl, isPart, each, rfl⟩ := inductionHypothesis restSplit
        exact ⟨[], first :: others, rfl, .nil, List.forall_mem_cons.mpr ⟨isPart, each⟩, by simp⟩
      · exact passed (.stays opening closing fun outside comma => cut ⟨comma, outside⟩)

/-- A text has some parts exactly when it is these parts with commas between them. -/
theorem splitParts_eq_ok_iff {text : List Char} {parts : List (List Char)} :
    splitParts false text = .ok parts ↔
      parts ≠ [] ∧ (∀ part ∈ parts, IsPart false part) ∧ text = [','].intercalate parts := by
  constructor
  · intro split
    obtain ⟨first, others, rfl, isPart, each, joined⟩ := isPart_of_splitParts split
    exact ⟨List.cons_ne_nil _ _, List.forall_mem_cons.mpr ⟨isPart, each⟩, joined⟩
  · rintro ⟨given, each, rfl⟩
    induction parts with
    | nil => exact absurd rfl given
    | cons first others inductionHypothesis =>
        obtain ⟨isPart, othersEach⟩ := List.forall_mem_cons.mp each
        cases others with
        | nil =>
            rw [List.intercalate_singleton]
            exact isPart.splitParts_eq
        | cons next others =>
            rw [List.intercalate_cons_cons, List.append_assoc, List.singleton_append,
              isPart.splitParts_append,
              inductionHypothesis (List.cons_ne_nil _ _) othersEach]
            rfl

end Graft.Label
