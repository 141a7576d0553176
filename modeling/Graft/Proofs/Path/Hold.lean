/-
This file shows that a text that is read as a path is one of the grammar: after each character a
draft holds the spans that the text up to there spells.
-/

import Graft.Path.Parse
import Graft.Proofs.Path.Grammar
import Graft.Proofs.Result
import Graft.Proofs.Text

namespace Graft.Path

/-- The segments that a text spells, which are none if it holds points only. -/
inductive Begun : Span → List Char → Prop where
  | points (count : Nat) : Begun [] (List.replicate count '.')
  | spelled {span : Span} {text : List Char} (spelled : SpellsSpan span text) : Begun span text

/-- The segments that a text spells after which a key may come. -/
inductive Ready : Span → List Char → Prop where
  | points (count : Nat) : Ready [] (List.replicate count '.')
  | point {span : Span} {text : List Char} (spelled : SpellsSpan span text) :
      Ready span (text ++ ['.'])

/-- After a point a key may come. -/
theorem Begun.ready {span : Span} {text : List Char} (begun : Begun span text) :
    Ready span (text ++ ['.']) := by
  cases begun with
  | points count =>
      rw [← List.replicate_succ']
      exact .points (count + 1)
  | spelled spelled => exact .point spelled

/-- Where a key may come no key has to come. -/
theorem Ready.begun {span : Span} {text : List Char} (ready : Ready span text) :
    Begun span text := by
  cases ready with
  | points count => exact .points count
  | point spelled =>
      have longer := spelled.append (.nil 1)
      rw [List.append_nil] at longer
      exact .spelled longer

/-- Segments that a text spells are a span. -/
theorem Begun.spells {span : Span} {text : List Char} (begun : Begun span text)
    (given : span ≠ []) : SpellsSpan span text := by
  cases begun with
  | points count => exact absurd rfl given
  | spelled spelled => exact spelled

/-- A key that may come is the next segment. -/
theorem Ready.key {span : Span} {text name spelling : List Char} (ready : Ready span text)
    (given : name ≠ []) (spelled : SpellsKey name spelling) :
    SpellsSpan (span ++ [.key (String.ofList name)]) (text ++ spelling) := by
  cases ready with
  | points count =>
      have first := SpellsSpan.cons count (.key given spelled) (.nil 0)
      rw [List.replicate_zero, List.append_nil] at first
      exact first
  | point earlier =>
      have later := earlier.append
        (.cons 1 (fun _ _ => Nat.one_pos) (.key given spelled) (.nil 0))
      rw [List.replicate_zero, List.append_nil] at later
      rw [List.append_assoc]
      exact later

/-- A bracket may come after any segments. -/
theorem Begun.bracket {span : Span} {text body : List Char} {segment : Segment}
    (begun : Begun span text) (encloses : Encloses body segment) (closed : ']' ∉ body) :
    SpellsSpan (span ++ [segment]) (text ++ ('[' :: body ++ [']'])) := by
  have apart : ∀ name, segment = .key name → 0 < 0 := by
    rintro name rfl
    cases encloses
  cases begun with
  | points count =>
      have first := SpellsSpan.cons count (.bracket encloses closed) (.nil 0)
      rw [List.replicate_zero, List.append_nil] at first
      exact first
  | spelled earlier =>
      have later := earlier.append (.cons 0 apart (.bracket encloses closed) (.nil 0))
      rw [List.replicate_zero, List.append_nil, List.nil_append] at later
      exact later

/-- The spellings of spans with a bar after each of them and another one at the end are separated
by the bars. -/
theorem intercalate_concat {A : Type} (bar : List A) (spellings : List (List A)) (last : List A) :
    bar.intercalate (spellings ++ [last]) = spellings.flatMap (· ++ bar) ++ last := by
  induction spellings with
  | nil => simp [List.intercalate]
  | cons first rest inductionHypothesis =>
      rw [List.flatMap_cons, List.append_assoc, ← inductionHypothesis]
      cases rest <;> simp [List.intercalate]

/-- A bracket holds a segment exactly when the segment is read from its text. -/
theorem bracketSegment_eq_ok_iff {path : String} {body : List Char} {segment : Segment} :
    bracketSegment path body = .ok segment ↔ Encloses body segment := by
  have decimal_iff : body.all Text.isDigit = true ↔ ∀ digit ∈ body, digit.isDigit = true := by
    simp only [List.all_eq_true, Text.isDigit_iff]
  rw [bracketSegment]
  by_cases given : body = []
  · subst given
    simp only [List.isEmpty_nil, if_true, reduceCtorEq, false_iff]
    intro encloses
    generalize empty : ([] : List Char) = body at encloses
    cases encloses with
    | index given _ _ => exact given empty.symm
    | predicate _ _ => simp at empty
  · have nonempty : body.isEmpty = false := by simpa using given
    simp only [nonempty, Bool.false_eq_true, if_false]
    by_cases decimal : ∀ digit ∈ body, digit.isDigit = true
    · rw [if_pos (decimal_iff.mpr decimal), Text.position?_of_digits given decimal]
      constructor
      · intro read
        split at read <;> cases read
        rename_i located
        split at located <;> cases located
        exact .index given decimal ‹_›
      · intro encloses
        cases encloses with
        | index _ _ small => simp only [if_pos small]
        | predicate _ _ => simpa using decimal '=' (by simp)
    · rw [if_neg (mt decimal_iff.mp decimal)]
      constructor
      · intro read
        split at read <;> cases read
        rename_i key value cut
        obtain ⟨rfl, first⟩ := Text.cut?_eq_some_iff.mp cut
        exact .predicate first value
      · intro encloses
        cases encloses with
        | index _ digits _ => exact absurd digits decimal
        | predicate first value => simp only [Text.cut?_eq_some_iff.mpr ⟨rfl, first⟩]

/-- What a text spells of a span that is being read: after the segments there may be an open key,
an escape, or a bracket that is open or that was just closed. -/
def Opens (segments : Span) (key : List Char) : Mode → List Char → Prop
  | .within, text => ∃ front spelling, Ready segments front ∧ SpellsKey key spelling ∧
      text = front ++ spelling
  | .escaped, text => ∃ front spelling, Ready segments front ∧ SpellsKey key spelling ∧
      text = front ++ spelling ++ ['\\']
  | .bracket _ body, text => key = [] ∧ ']' ∉ body ∧ ∃ front, Begun segments front ∧
      text = front ++ '[' :: body
  | .closed, text => key = [] ∧ SpellsSpan segments text

namespace Draft

/-- A draft holds what a text spells: finished spans with a bar after each of them, and the span
that is being read. -/
def Holds (draft : Draft) (text : List Char) : Prop :=
  ∃ spellings current, List.Forall₂ SpellsSpan draft.spans spellings ∧
    Opens draft.segments draft.key draft.mode current ∧
    text = spellings.flatMap (· ++ ['|']) ++ current

/-- The end of a key leaves the finished spans alone. -/
@[simp] theorem spans_endKey (draft : Draft) : draft.endKey.spans = draft.spans := by
  rw [endKey]
  split <;> rfl

/-- After the end of a key no key is open. -/
@[simp] theorem key_endKey (draft : Draft) : draft.endKey.key = [] := by
  rw [endKey]
  split
  · rename_i empty
    simpa using empty
  · rfl

/-- Where no key is open there is none to end. -/
theorem endKey_of_key {draft : Draft} (empty : draft.key = []) : draft.endKey = draft := by
  rw [endKey, empty]
  rfl

/-- Where neither an escape nor a bracket is open, the text spells the segments after the end of
the key. -/
theorem begun_endKey {draft : Draft} {current : List Char}
    (free : draft.mode = .within ∨ draft.mode = .closed)
    (opens : Opens draft.segments draft.key draft.mode current) :
    Begun draft.endKey.segments current := by
  rcases free with within | closed
  · rw [within] at opens
    obtain ⟨front, spelling, ready, spelled, rfl⟩ := opens
    by_cases given : draft.key = []
    · rw [given] at spelled
      cases spelled
      rw [endKey_of_key given, List.append_nil]
      exact ready.begun
    · have nonempty : draft.key.isEmpty = false := by simpa using given
      simp only [endKey, nonempty, Bool.false_eq_true, if_false]
      exact .spelled (ready.key given spelled)
  · rw [closed] at opens
    obtain ⟨empty, spelled⟩ := opens
    rw [endKey_of_key empty]
    exact .spelled spelled

variable {path : String} {draft next : Draft} {text : List Char} {character : Char}

/-- A point, a bar or an opening bracket keeps what a draft holds. -/
theorem holds_separator (holds : draft.Holds text)
    (free : draft.mode = .within ∨ draft.mode = .closed)
    (separator : character = '.' ∨ character = '|' ∨ character = '[')
    (taken : draft.read path character = .ok next) : next.Holds (text ++ [character]) := by
  obtain ⟨spellings, current, finished, opens, rfl⟩ := holds
  have begun := begun_endKey free opens
  rcases separator with rfl | rfl | rfl
  · cases taken
    refine ⟨spellings, current ++ ['.'], by simpa using finished, ?_, List.append_assoc ..⟩
    rw [key_endKey]
    exact ⟨_, [], begun.ready, .nil, (List.append_nil _).symm⟩
  · obtain ⟨middle, ended, same⟩ := Result.bind_eq_ok.mp taken
    cases same
    rw [endSpan] at ended
    split at ended <;> cases ended
    rename_i given
    have spelled := begun.spells (by simpa using given)
    refine ⟨spellings ++ [current], [], ?_, ?_, by simp⟩
    · simpa using List.rel_append finished (.cons spelled .nil)
    · rw [key_endKey]
      exact ⟨[], [], .points 0, .nil, rfl⟩
  · cases taken
    refine ⟨spellings, current ++ ['['], by simpa using finished, ?_, List.append_assoc ..⟩
    rw [key_endKey]
    exact ⟨rfl, by simp, current, begun, rfl⟩

/-- A character outside of brackets and escapes keeps what a draft holds. -/
theorem holds_read (holds : draft.Holds text) (free : draft.mode = .within)
    (taken : draft.read path character = .ok next) : next.Holds (text ++ [character]) := by
  by_cases separator : character = '.' ∨ character = '|' ∨ character = '['
  · exact holds_separator holds (.inl free) separator taken
  · obtain ⟨spellings, current, finished, opens, rfl⟩ := holds
    rw [free] at opens
    obtain ⟨front, spelling, ready, spelled, rfl⟩ := opens
    rw [read.eq_def] at taken
    split at taken
    · cases taken
      exact ⟨spellings, front ++ spelling ++ ['\\'], finished,
        ⟨front, spelling, ready, spelled, rfl⟩, List.append_assoc ..⟩
    · simp at separator
    · simp at separator
    · simp at separator
    · cases taken
    · rename_i notEscape _ _ _ notClosing
      cases taken
      have ordinary : isMark character = false := by
        simp only [not_or] at separator
        simp only [isMark, Bool.or_eq_false_iff, beq_eq_false_iff_ne]
        exact ⟨⟨⟨⟨notEscape, separator.1⟩, separator.2.1⟩, separator.2.2⟩, notClosing⟩
      refine ⟨spellings, front ++ (spelling ++ [character]), finished, ?_, by simp⟩
      rw [free]
      exact ⟨front, spelling ++ [character], ready, spelled.append (.plain ordinary .nil), rfl⟩

/-- Each character keeps what a draft holds. -/
theorem holds_step (holds : draft.Holds text) (stepped : draft.step path character = .ok next) :
    next.Holds (text ++ [character]) := by
  -- The position has no part in what a draft holds.
  have moved (middle : Draft) {longer : List Char} (kept : middle.Holds longer) :
      Holds { middle with position := draft.position + 1 } longer := kept
  rw [step] at stepped
  split at stepped
  · rename_i within
    obtain ⟨middle, taken, same⟩ := Result.bind_eq_ok.mp stepped
    cases same
    exact moved middle (holds_read holds within taken)
  · rename_i escaped
    cases stepped
    obtain ⟨spellings, current, finished, opens, rfl⟩ := holds
    rw [escaped] at opens
    obtain ⟨front, spelling, ready, spelled, rfl⟩ := opens
    refine ⟨spellings, front ++ (spelling ++ ['\\', character]), finished, ?_, by simp⟩
    exact ⟨front, _, ready, spelled.append (.escaped character .nil), rfl⟩
  · rename_i start body bracket
    obtain ⟨spellings, current, finished, opens, rfl⟩ := holds
    rw [bracket] at opens
    obtain ⟨empty, closed, front, begun, rfl⟩ := opens
    split at stepped
    · rename_i closing
      subst closing
      obtain ⟨segment, read, same⟩ := Result.bind_eq_ok.mp stepped
      cases same
      have encloses := bracketSegment_eq_ok_iff.mp read
      refine ⟨spellings, front ++ ('[' :: body ++ [']']), finished, ?_, by simp⟩
      exact ⟨empty, begun.bracket encloses closed⟩
    · rename_i other
      cases stepped
      refine ⟨spellings, front ++ '[' :: (body ++ [character]), finished, ?_, by simp⟩
      exact ⟨empty, by simp [closed, Ne.symm other], front, begun, rfl⟩
  · rename_i closed
    split at stepped
    · rename_i separator
      obtain ⟨middle, taken, same⟩ := Result.bind_eq_ok.mp stepped
      cases same
      exact moved middle (holds_separator holds (.inr closed) separator taken)
    · cases stepped

/-- After a run over characters a draft holds them too. -/
theorem holds_run {characters : List Char} {last : Draft} (holds : draft.Holds text)
    (run : characters.foldlM (step path) draft = .ok last) : last.Holds (text ++ characters) := by
  induction characters generalizing draft text with
  | nil =>
      cases run
      rw [List.append_nil]
      exact holds
  | cons character rest inductionHypothesis =>
      rw [List.foldlM_cons] at run
      obtain ⟨next, stepped, restRun⟩ := Result.bind_eq_ok.mp run
      have kept := inductionHypothesis (holds_step holds stepped) restRun
      rw [List.append_assoc, List.singleton_append] at kept
      exact kept

/-- The spans of a finished draft are those that its text spells. -/
theorem spells_of_finish {spans : List Span} (holds : draft.Holds text)
    (finished : draft.finish path = .ok spans) : Spells spans text := by
  obtain ⟨spellings, current, earlier, opens, rfl⟩ := holds
  rw [finish] at finished
  split at finished
  · cases finished
  · cases finished
  · rename_i notEscaped notBracket
    have free : draft.mode = .within ∨ draft.mode = .closed := by
      cases mode : draft.mode with
      | within => exact .inl rfl
      | escaped => exact absurd mode notEscaped
      | bracket start body => exact absurd mode (notBracket start body)
      | closed => exact .inr rfl
    dsimp only at finished
    split at finished
    · split at finished <;> cases finished
    · rename_i given
      cases finished
      have spelled := (begun_endKey free opens).spells (by simpa using given)
      refine ⟨by simp, spellings ++ [current], ?_, (intercalate_concat _ _ _).symm⟩
      simpa using List.rel_append earlier (.cons spelled .nil)

end Draft

end Graft.Path
