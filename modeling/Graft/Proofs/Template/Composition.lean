/-
This file shows how templates are rendered that are composed of plain chunks and placeholders: each
placeholder is replaced by its value once, and the first one without a value is reported.
-/

import Graft.Proofs.Template.Rendering

namespace Graft.Template

/-- A placeholder with the chunk in front of it. The placeholder lies in one line, and the chunk
neither has an opening nor makes one with the opening behind it. -/
structure Slot where
  chunk : List Char
  body : List Char
  position : Nat
  plain : Plain chunk
  apart : chunk.getLast? ≠ some '{'
  asks : Asks body position
  oneLine : '\n' ∉ body

namespace Slot

def text (slot : Slot) : List Char := slot.chunk ++ opening.toList ++ slot.body ++ closing.toList

/-- The chunk with the value in the place of the placeholder. -/
def filled (values : List String) (slot : Slot) : List Char :=
  slot.chunk ++ (values.getD slot.position "").toList

/-- The chunk of a slot is passed over on the way to its placeholder. -/
theorem passed (slot : Slot) : Passed slot.chunk := by
  refine ⟨slot.apart, ?_⟩
  intro front back split
  apply absurd _ slot.plain
  rw [split]
  exact ⟨front, back, by simp [toList_opening]⟩

/-- The first action of a text that starts with a slot is the placeholder of the slot. -/
theorem cutAction?_text (slot : Slot) (after : List Char) :
    cutAction? (slot.text ++ after) = some (slot.chunk, slot.body, after) :=
  cutAction?_append slot.passed slot.asks.unclosed slot.oneLine after

/-- The value of a slot stands at its position, if there are enough values. -/
theorem actionValue_body (slot : Slot) (template : String) (values : List String) :
    actionValue template values slot.body =
      if slot.position < values.length then .ok (values.getD slot.position "")
      else .error (.missingValue slot.position values.length) := by
  unfold actionValue
  rw [position?_eq_some_iff.mpr slot.asks]
  dsimp only
  by_cases inside : slot.position < values.length
  · rw [if_pos inside, List.getD_eq_getElem?_getD, List.getElem?_eq_getElem inside]
    rfl
  · rw [if_neg inside, List.getElem?_eq_none (Nat.le_of_not_gt inside)]

end Slot

/-- A template in which slots come one after another, with a plain chunk behind them. -/
structure Composition where
  slots : List Slot
  last : List Char
  plain : Plain last

namespace Composition

def text (composition : Composition) : String :=
  String.ofList (composition.slots.flatMap Slot.text ++ composition.last)

/-- The text with the values in the place of the placeholders. -/
def filled (composition : Composition) (values : List String) : String :=
  String.ofList (composition.slots.flatMap (Slot.filled values) ++ composition.last)

/-- The position that the first placeholder without a value asks for. -/
def missing? (composition : Composition) (count : Nat) : Option Nat :=
  (composition.slots.map Slot.position).find? (count ≤ ·)

end Composition

/-- Slots are rendered one after another up to the first that has no value. -/
theorem renderFrom_slots (template : String) (values : List String) (slots : List Slot)
    {last : List Char} (plain : Plain last) :
    renderFrom template values (slots.flatMap Slot.text ++ last) =
      ((slots.map Slot.position).find? (values.length ≤ ·)).elim
        (.ok (slots.flatMap (Slot.filled values) ++ last))
        fun position => .error (.missingValue position values.length) := by
  induction slots with
  | nil =>
      rw [List.flatMap_nil, List.nil_append, renderFrom_uncut (cutAction?_plain plain),
        hasOpening_eq_false_iff.mpr plain, if_neg Bool.false_ne_true]
      rfl
  | cons slot rest inductionHypothesis =>
      rw [List.flatMap_cons, List.append_assoc, renderFrom_cut (slot.cutAction?_text _),
        slot.actionValue_body, inductionHypothesis, List.map_cons]
      by_cases inside : slot.position < values.length
      · rw [if_pos inside, List.find?_cons_of_neg (by simpa using inside), Result.ok_bind]
        cases (rest.map Slot.position).find? (values.length ≤ ·) with
        | none => simp [Slot.filled]
        | some position => rfl
      · rw [if_neg inside, List.find?_cons_of_pos (by simpa using inside)]
        rfl

/-- A composed template is rendered by putting each value in the place of the placeholders that ask
for it, whatever the values look like. If a placeholder asks for a position without a value, the first
such is the failure. -/
theorem render_composition (composition : Composition) (values : List String) :
    render composition.text values =
      (composition.missing? values.length).elim (.ok (composition.filled values))
        fun position => .error (.missingValue position values.length) := by
  unfold render Composition.text
  rw [String.toList_ofList, renderFrom_slots _ values composition.slots composition.plain,
    Composition.missing?]
  cases (composition.slots.map Slot.position).find? (values.length ≤ ·) <;> rfl

/-- Braces in chunks and in values are text, and the first of two missing values is reported. -/
theorem render_composition_braces :
    let first : Slot := ⟨"\x7b \x7d\x7d\n".toList, " index\t.Values 1 ".toList, 1,
      hasOpening_eq_false_iff.mp (by decide), by decide, position?_eq_some_iff.mp (by decide),
      by decide⟩
    let second : Slot := ⟨[], "0".toList, 0, hasOpening_eq_false_iff.mp (by decide), by decide,
      position?_eq_some_iff.mp (by decide), by decide⟩
    let composition : Composition := ⟨[first, second], "\x7d \x7b".toList,
      hasOpening_eq_false_iff.mp (by decide)⟩
    render composition.text ["\x7b\x7b1\x7d\x7d", "\x7b\x7b"] =
        .ok "\x7b \x7d\x7d\n\x7b\x7b\x7b\x7b1\x7d\x7d\x7d \x7b" ∧
      render composition.text [] = .error (.missingValue 1 0) := by
  intro first second composition
  constructor
  · rw [render_composition]
    decide +kernel
  · rw [render_composition]
    decide +kernel

end Graft.Template
