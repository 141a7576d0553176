/-
This file states the grammar of paths: which texts spell which spans, apart from how they are
read.
-/

import Graft.Path.Print
import Mathlib.Data.List.Forall2

namespace Graft.Path

/-- A key is spelled character by character. A backslash may stand before any character, and has
to stand before a mark. -/
inductive SpellsKey : List Char → List Char → Prop where
  | nil : SpellsKey [] []
  | plain {character : Char} {name spelling : List Char} (ordinary : isMark character = false)
      (rest : SpellsKey name spelling) :
      SpellsKey (character :: name) (character :: spelling)
  | escaped {name spelling : List Char} (character : Char) (rest : SpellsKey name spelling) :
      SpellsKey (character :: name) ('\\' :: character :: spelling)

/-- Between brackets stands a position in decimal digits, or the key and the value of a predicate,
which are separated by the first equals sign. -/
inductive Encloses : List Char → Segment → Prop where
  | index {digits : List Char} (given : digits ≠ [])
      (decimal : ∀ digit ∈ digits, digit.isDigit = true)
      (small : Nat.ofDigitChars 10 digits 0 < Text.wordLimit) :
      Encloses digits (.index (Nat.ofDigitChars 10 digits 0))
  | predicate {key : List Char} (first : '=' ∉ key) (value : List Char) :
      Encloses (key ++ '=' :: value) (.predicate (String.ofList key) (String.ofList value))

/-- A segment is spelled as a key with a character, or in brackets that its text does not close. -/
inductive SpellsSegment : Segment → List Char → Prop where
  | key {name spelling : List Char} (given : name ≠ []) (spelled : SpellsKey name spelling) :
      SpellsSegment (.key (String.ofList name)) spelling
  | bracket {body : List Char} {segment : Segment} (encloses : Encloses body segment)
      (closed : ']' ∉ body) : SpellsSegment segment ('[' :: body ++ [']'])

/-- After a segment come points and other segments. A key needs a point before it and a bracket
does not. -/
inductive SpellsRest : Span → List Char → Prop where
  | nil (points : Nat) : SpellsRest [] (List.replicate points '.')
  | cons {segment : Segment} {rest : Span} {spelling others : List Char} (points : Nat)
      (apart : ∀ name, segment = .key name → 0 < points)
      (spelled : SpellsSegment segment spelling) (later : SpellsRest rest others) :
      SpellsRest (segment :: rest) (List.replicate points '.' ++ spelling ++ others)

/-- A span has a segment, before which any number of points may stand. -/
inductive SpellsSpan : Span → List Char → Prop where
  | cons {segment : Segment} {rest : Span} {spelling others : List Char} (points : Nat)
      (spelled : SpellsSegment segment spelling) (later : SpellsRest rest others) :
      SpellsSpan (segment :: rest) (List.replicate points '.' ++ spelling ++ others)

/-- A path has a span, and its spans are separated by bars. -/
def Spells (spans : List Span) (text : List Char) : Prop :=
  spans ≠ [] ∧ ∃ spellings, List.Forall₂ SpellsSpan spans spellings ∧
    text = ['|'].intercalate spellings

/-- A key can be continued by a key. -/
theorem SpellsKey.append {first second firstSpelling secondSpelling : List Char}
    (front : SpellsKey first firstSpelling) (back : SpellsKey second secondSpelling) :
    SpellsKey (first ++ second) (firstSpelling ++ secondSpelling) := by
  induction front with
  | nil => exact back
  | plain ordinary _ inductionHypothesis => exact .plain ordinary inductionHypothesis
  | escaped character _ inductionHypothesis => exact .escaped character inductionHypothesis

/-- Points may be added in front of the rest of a span. -/
theorem SpellsRest.points {span : Span} {text : List Char} (rest : SpellsRest span text)
    (count : Nat) : SpellsRest span (List.replicate count '.' ++ text) := by
  cases rest with
  | nil points =>
      rw [List.replicate_append_replicate]
      exact .nil (count + points)
  | cons points apart spelled later =>
      rw [← List.append_assoc, ← List.append_assoc, List.replicate_append_replicate]
      exact .cons (count + points) (fun name same => by have := apart name same; omega) spelled
        later

/-- The rest of a span can be continued. -/
theorem SpellsRest.append {first second : Span} {firstText secondText : List Char}
    (front : SpellsRest first firstText) (back : SpellsRest second secondText) :
    SpellsRest (first ++ second) (firstText ++ secondText) := by
  induction front with
  | nil points => exact back.points points
  | cons points apart spelled _ inductionHypothesis =>
      rw [List.append_assoc]
      exact .cons points apart spelled inductionHypothesis

/-- A span can be continued. -/
theorem SpellsSpan.append {first second : Span} {firstText secondText : List Char}
    (front : SpellsSpan first firstText) (back : SpellsRest second secondText) :
    SpellsSpan (first ++ second) (firstText ++ secondText) := by
  cases front with
  | cons points spelled later =>
      rw [List.append_assoc]
      exact .cons points spelled (later.append back)

/-- A segment that a text can spell: a key has a character, a position is below the limit, and
neither the end of the bracket nor the separator of a predicate lies within its parts. -/
def WellFormedSegment : Segment → Prop
  | .key name => name ≠ ""
  | .index position => position < Text.wordLimit
  | .predicate key value => '=' ∉ key.toList ∧ ']' ∉ key.toList ∧ ']' ∉ value.toList

/-- Spans that a text can spell: there is a span, and each of them has a segment. -/
def WellFormed (spans : List Span) : Prop :=
  spans ≠ [] ∧ ∀ span ∈ spans, span ≠ [] ∧ ∀ segment ∈ span, WellFormedSegment segment

instance : (segment : Segment) → Decidable (WellFormedSegment segment)
  | .key _ => inferInstanceAs (Decidable (_ ≠ _))
  | .index _ => inferInstanceAs (Decidable (_ < _))
  | .predicate _ _ => inferInstanceAs (Decidable (_ ∧ _))

instance (spans : List Span) : Decidable (WellFormed spans) :=
  inferInstanceAs (Decidable (_ ∧ _))

/-- A segment that is spelled is well formed. -/
theorem SpellsSegment.wellFormed {segment : Segment} {text : List Char}
    (spelled : SpellsSegment segment text) : WellFormedSegment segment := by
  cases spelled with
  | @key name _ given _ =>
      intro empty
      exact given (String.ofList_eq_empty_iff.mp empty)
  | bracket encloses closed =>
      cases encloses with
      | index _ _ small => exact small
      | @predicate key first value =>
          simp only [List.mem_append, List.mem_cons, not_or] at closed
          simp only [WellFormedSegment, String.toList_ofList]
          exact ⟨first, closed.1, closed.2.2⟩

/-- The segments of a spelled rest are well formed. -/
theorem SpellsRest.wellFormed {span : Span} {text : List Char} (spelled : SpellsRest span text) :
    ∀ segment ∈ span, WellFormedSegment segment := by
  induction spelled with
  | nil _ => simp
  | cons _ _ first _ inductionHypothesis =>
      exact List.forall_mem_cons.mpr ⟨first.wellFormed, inductionHypothesis⟩

/-- A span that is spelled has a segment, and its segments are well formed. -/
theorem SpellsSpan.wellFormed {span : Span} {text : List Char} (spelled : SpellsSpan span text) :
    span ≠ [] ∧ ∀ segment ∈ span, WellFormedSegment segment := by
  cases spelled with
  | cons _ first later =>
      exact ⟨by simp, List.forall_mem_cons.mpr ⟨first.wellFormed, later.wellFormed⟩⟩

/-- Spans that are spelled are well formed. -/
theorem Spells.wellFormed {spans : List Span} {text : List Char} (spelled : Spells spans text) :
    WellFormed spans := by
  obtain ⟨given, spellings, each, -⟩ := spelled
  refine ⟨given, ?_⟩
  clear given
  induction each with
  | nil => simp
  | cons first _ inductionHypothesis =>
      exact List.forall_mem_cons.mpr ⟨first.wellFormed, inductionHypothesis⟩

end Graft.Path
