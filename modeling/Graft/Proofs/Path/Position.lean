/-
This file shows that a failure of reading a path that names a character names the one at which
reading went wrong: the text up to there is read without such a failure.
-/

import Graft.Proofs.Path.Accept

namespace Graft.Path

/-- The position of the character that a failure names: a bracket that is not closed, or a
character that is out of place. The other failures name none. -/
def Failure.position? : Failure → Option Nat
  | .unclosedBracket _ position => some position
  | .unexpectedCharacter _ position _ => some position
  | _ => none

/-- What stands between brackets fails without a position. -/
theorem failure_of_bracketSegment {path : String} {body : List Char} {failure : Failure}
    (failed : bracketSegment path body = .error failure) : failure.position? = none := by
  rw [bracketSegment] at failed
  split at failed
  · cases failed
    rfl
  · split at failed
    · split at failed <;> cases failed
      rfl
    · split at failed <;> cases failed
      rfl

namespace Draft

/-- A draft is free where neither an escape nor a bracket is open. -/
def Free (draft : Draft) : Prop := draft.mode = .within ∨ draft.mode = .closed

theorem Free.mode_ne {draft : Draft} (free : draft.Free) (start : Nat) (body : List Char) :
    draft.mode ≠ .bracket start body := by
  rcases free with within | closed
  · simp [within]
  · simp [closed]

/-- What a character makes of a draft. The text of the path has no part in it. -/
inductive Steps (draft : Draft) (character : Char) : Draft → Prop where
  | escape (within : draft.mode = .within) (mark : character = '\\') :
      Steps draft character { draft with mode := .escaped, position := draft.position + 1 }
  | point (free : draft.Free) (mark : character = '.') :
      Steps draft character
        { draft.endKey with mode := .within, position := draft.position + 1 }
  | bar (free : draft.Free) (mark : character = '|') (given : draft.endKey.segments ≠ []) :
      Steps draft character { draft.endKey with
        spans := draft.endKey.spans ++ [draft.endKey.segments], segments := [],
        mode := .within, position := draft.position + 1 }
  | opens (free : draft.Free) (mark : character = '[') :
      Steps draft character { draft.endKey with
        mode := .bracket draft.position [], position := draft.position + 1 }
  | ordinary (within : draft.mode = .within) (unmarked : isMark character = false) :
      Steps draft character
        { draft with key := draft.key ++ [character], position := draft.position + 1 }
  | escaped (escaped : draft.mode = .escaped) :
      Steps draft character { draft with
        key := draft.key ++ [character], mode := .within, position := draft.position + 1 }
  | closes {start : Nat} {body : List Char} {segment : Segment}
      (bracket : draft.mode = .bracket start body) (mark : character = ']')
      (encloses : Encloses body segment) :
      Steps draft character { draft with
        segments := draft.segments ++ [segment], mode := .closed, position := draft.position + 1 }
  | fills {start : Nat} {body : List Char} (bracket : draft.mode = .bracket start body)
      (other : character ≠ ']') :
      Steps draft character { draft with
        mode := .bracket start (body ++ [character]), position := draft.position + 1 }

variable {path : String} {draft next : Draft} {character : Char} {failure : Failure}

/-- A point, a bar or an opening bracket that is read at a free draft is a step. -/
theorem steps_of_separator (free : draft.Free)
    (separator : character = '.' ∨ character = '|' ∨ character = '[')
    (taken : draft.read path character = .ok next) :
    Steps draft character { next with position := draft.position + 1 } := by
  rcases separator with rfl | rfl | rfl
  · cases taken
    exact .point free rfl
  · obtain ⟨middle, ended, same⟩ := Result.bind_eq_ok.mp taken
    cases same
    rw [endSpan] at ended
    split at ended <;> cases ended
    rename_i given
    exact .bar free rfl (by simpa using given)
  · cases taken
    exact .opens free rfl

/-- A character that is read within a span is a step. -/
theorem steps_of_read (within : draft.mode = .within)
    (taken : draft.read path character = .ok next) :
    Steps draft character { next with position := draft.position + 1 } := by
  by_cases separator : character = '.' ∨ character = '|' ∨ character = '['
  · exact steps_of_separator (.inl within) separator taken
  · simp only [not_or] at separator
    obtain ⟨notPoint, notBar, notOpening⟩ := separator
    rw [read.eq_def] at taken
    split at taken
    · cases taken
      exact .escape within rfl
    · contradiction
    · contradiction
    · contradiction
    · cases taken
    · rename_i notEscape _ _ _ notClosing
      cases taken
      refine .ordinary within ?_
      simp only [isMark, Bool.or_eq_false_iff, beq_eq_false_iff_ne]
      exact ⟨⟨⟨⟨notEscape, notPoint⟩, notBar⟩, notOpening⟩, notClosing⟩

/-- The steps are the characters that can be read, whatever path they belong to. -/
theorem step_eq_ok_iff : draft.step path character = .ok next ↔ Steps draft character next := by
  constructor
  · intro stepped
    rw [step] at stepped
    split at stepped
    · rename_i within
      obtain ⟨middle, taken, same⟩ := Result.bind_eq_ok.mp stepped
      cases same
      exact steps_of_read within taken
    · rename_i escaped
      cases stepped
      exact .escaped escaped
    · rename_i bracket
      split at stepped
      · rename_i closing
        obtain ⟨segment, enclosed, same⟩ := Result.bind_eq_ok.mp stepped
        cases same
        exact .closes bracket closing (bracketSegment_eq_ok_iff.mp enclosed)
      · rename_i other
        cases stepped
        exact .fills bracket other
    · rename_i closed
      split at stepped
      · rename_i separator
        obtain ⟨middle, taken, same⟩ := Result.bind_eq_ok.mp stepped
        cases same
        exact steps_of_separator (.inr closed) separator taken
      · cases stepped
  · intro steps
    cases steps with
    | escape within mark =>
        rw [mark, step, within]
        rfl
    | point free mark =>
        rw [mark, step_separator path free (.inl rfl)]
        rfl
    | bar free mark given =>
        rw [mark, step_separator path free (.inr (.inl rfl))]
        simp only [read, endSpan, List.isEmpty_iff, given, if_false]
        rfl
    | opens free mark =>
        rw [mark, step_separator path free (.inr (.inr rfl))]
        rfl
    | ordinary within unmarked => exact step_ordinary path within unmarked
    | escaped escaped =>
        rw [step, escaped]
        rfl
    | closes bracket mark encloses =>
        rw [step, bracket]
        simp only [mark, if_true, bracketSegment_eq_ok_iff.mpr encloses]
        rfl
    | fills bracket other =>
        rw [step, bracket]
        simp only [if_neg other]
        rfl

/-- Each character moves a draft on by one position. -/
theorem Steps.position (steps : Steps draft character next) :
    next.position = draft.position + 1 := by
  cases steps <;> rfl

/-- A bracket is open after a character because the character opens it at its own position, or
because it was open before and the character does not close it. -/
theorem Steps.bracket {start : Nat} {body : List Char} (steps : Steps draft character next)
    (bracket : next.mode = .bracket start body) :
    (character = '[' ∧ draft.Free ∧ start = draft.position ∧ body = []) ∨
      ∃ earlier, draft.mode = .bracket start earlier ∧ character ≠ ']' ∧
        body = earlier ++ [character] := by
  cases steps with
  | opens free mark =>
      cases bracket
      exact .inl ⟨mark, free, rfl, rfl⟩
  | fills earlier other =>
      cases bracket
      exact .inr ⟨_, earlier, other, rfl⟩
  | ordinary within _ => cases within.symm.trans bracket
  | escape | point | bar | escaped | closes => cases bracket

/-- Outside of brackets a closing bracket is out of place, and any other failure has no
position. -/
theorem failure_of_read (failed : draft.read path character = .error failure) :
    failure = .unexpectedCharacter path draft.position character ∨ failure.position? = none := by
  rw [read.eq_def] at failed
  split at failed
  · cases failed
  · cases failed
  · rcases Result.bind_eq_error.mp failed with ended | ⟨_, _, rest⟩
    · rw [endSpan] at ended
      split at ended <;> cases ended
      exact .inr rfl
    · cases rest
  · cases failed
  · cases failed
    exact .inl rfl
  · cases failed

/-- A character is out of place only where the draft is free, and it is the one at which the draft
stands. Any other failure of a step has no position. -/
theorem failure_of_step (failed : draft.step path character = .error failure) :
    failure = .unexpectedCharacter path draft.position character ∧ draft.Free ∨
      failure.position? = none := by
  -- Moving on after the character was read does not fail.
  have early {result : Except Failure Draft}
      (late : (result >>= fun next => .ok { next with position := draft.position + 1 }) =
        .error failure) : result = .error failure := by
    cases result with
    | error cause => exact late
    | ok next => cases late
  rw [step] at failed
  split at failed
  · rename_i within
    exact (failure_of_read (early failed)).imp_left fun same => ⟨same, .inl within⟩
  · cases failed
  · split at failed
    · rcases Result.bind_eq_error.mp failed with enclosed | ⟨_, _, rest⟩
      · exact .inr (failure_of_bracketSegment enclosed)
      · cases rest
    · cases failed
  · rename_i closed
    split at failed
    · exact (failure_of_read (early failed)).imp_left fun same => ⟨same, .inr closed⟩
    · cases failed
      exact .inl ⟨rfl, .inr closed⟩

/-- At the end of a text a bracket that is open is not closed, and any other failure has no
position. -/
theorem failure_of_finish (failed : draft.finish path = .error failure) :
    (∃ start body, failure = .unclosedBracket path start ∧ draft.mode = .bracket start body) ∨
      failure.position? = none := by
  rw [finish] at failed
  split at failed
  · cases failed
    exact .inr rfl
  · rename_i start body bracket
    cases failed
    exact .inl ⟨start, body, rfl, bracket⟩
  · dsimp only at failed
    split at failed
    · split at failed <;> cases failed
      · exact .inr rfl
      · exact .inr rfl
    · cases failed

/-- The drafts that are reached over a text, whatever path the text is the start of. -/
inductive Reached : List Char → Draft → Prop where
  | start : Reached [] Draft.start
  | step {text : List Char} {draft next : Draft} {character : Char} (before : Reached text draft)
      (steps : Steps draft character next) : Reached (text ++ [character]) next

variable {text rest : List Char} {last : Draft}

/-- A run goes on from a draft that was reached. -/
theorem Reached.of_run (reached : Reached text draft)
    (run : rest.foldlM (Draft.step path) draft = .ok last) : Reached (text ++ rest) last := by
  induction rest generalizing text draft with
  | nil =>
      cases run
      rwa [List.append_nil]
  | cons character rest inductionHypothesis =>
      rw [List.foldlM_cons] at run
      obtain ⟨next, stepped, restRun⟩ := Result.bind_eq_ok.mp run
      have further := inductionHypothesis (.step reached (step_eq_ok_iff.mp stepped)) restRun
      rwa [List.append_assoc, List.singleton_append] at further

/-- A run over a text reaches the draft that it gives. -/
theorem reached_of_run (run : text.foldlM (Draft.step path) Draft.start = .ok draft) :
    Reached text draft := by
  have reached : Reached ([] ++ text) draft := .of_run .start run
  rwa [List.nil_append] at reached

/-- A draft that is reached over a text is what a run over the text gives. -/
theorem Reached.run (reached : Reached text draft) (path : String) :
    text.foldlM (Draft.step path) Draft.start = .ok draft := by
  induction reached with
  | start => rfl
  | step _ steps inductionHypothesis =>
      refine Result.foldlM_append inductionHypothesis ?_
      rw [List.foldlM_cons, step_eq_ok_iff.mpr steps]
      rfl

/-- A draft stands behind the characters that were read. -/
theorem Reached.position (reached : Reached text draft) : draft.position = text.length := by
  induction reached with
  | start => rfl
  | step _ steps inductionHypothesis =>
      rw [steps.position, inductionHypothesis, List.length_append, List.length_singleton]

/-- A bracket that is open was opened at its position where the draft was free, and nothing since
then closes it. -/
theorem Reached.bracket {start : Nat} {body : List Char} (reached : Reached text draft)
    (bracket : draft.mode = .bracket start body) :
    ∃ front middle, text = front ++ '[' :: body ∧ front.length = start ∧ ']' ∉ body ∧
      Reached front middle ∧ middle.Free := by
  induction reached generalizing start body with
  | start => cases bracket
  | @step text draft next character before steps inductionHypothesis =>
      rcases steps.bracket bracket with ⟨rfl, free, rfl, rfl⟩ | ⟨earlier, mode, other, rfl⟩
      · -- The draft before the bracket is the one that the text up to it reaches.
        exact ⟨text, draft, rfl, before.position.symm, List.not_mem_nil, before, free⟩
      · obtain ⟨front, middle, rfl, place, unclosed, reached, free⟩ := inductionHypothesis mode
        refine ⟨front, middle, by simp, place, ?_, reached, free⟩
        simpa [unclosed] using Ne.symm other

end Draft

/-- No character of a text is out of place, and no bracket is left open. -/
def Placed (text : String) : Prop :=
  ∀ failure, parseSpans text = .error failure → failure.position? = none

/-- In a text over which a free draft is reached all is in place. -/
theorem Draft.Reached.placed {text : List Char} {draft : Draft} (reached : Reached text draft)
    (free : draft.Free) : Placed (String.ofList text) := by
  have finished : parseSpans (String.ofList text) = draft.finish (String.ofList text) := by
    rw [parseSpans, String.toList_ofList, reached.run, Result.ok_bind]
  intro failure failed
  rw [finished] at failed
  rcases failure_of_finish failed with ⟨start, body, -, bracket⟩ | unplaced
  · exact absurd bracket (free.mode_ne start body)
  · exact unplaced

/-- A character that is out of place is the first one that cannot be read. -/
theorem unexpected_of_parseSpans {text path : String} {position : Nat} {found : Char}
    (failed : parseSpans text = .error (.unexpectedCharacter path position found)) :
    path = text ∧ ∃ front back draft, text.toList = front ++ found :: back ∧
      front.length = position ∧ Draft.Reached front draft ∧ draft.Free := by
  rcases Result.bind_eq_error.mp failed with stopped | ⟨last, _, unfinished⟩
  · obtain ⟨front, character, back, draft, split, run, refused⟩ :=
      Result.foldlM_eq_error.mp stopped
    have reached : Draft.Reached front draft := Draft.reached_of_run run
    rcases Draft.failure_of_step refused with ⟨same, free⟩ | unplaced
    · cases same
      exact ⟨rfl, front, back, draft, split, reached.position.symm, reached, free⟩
    · cases unplaced
  · rcases Draft.failure_of_finish unfinished with ⟨_, _, unclosed, -⟩ | unplaced
    · cases unclosed
    · cases unplaced

/-- A bracket that is left open has no closing bracket after it. -/
theorem unclosed_of_parseSpans {text path : String} {position : Nat}
    (failed : parseSpans text = .error (.unclosedBracket path position)) :
    path = text ∧ ∃ front body draft, text.toList = front ++ '[' :: body ∧
      front.length = position ∧ ']' ∉ body ∧ Draft.Reached front draft ∧ draft.Free := by
  rcases Result.bind_eq_error.mp failed with stopped | ⟨last, run, unfinished⟩
  · obtain ⟨_, _, _, _, -, -, refused⟩ := Result.foldlM_eq_error.mp stopped
    rcases Draft.failure_of_step refused with ⟨same, -⟩ | unplaced
    · cases same
    · cases unplaced
  · rcases Draft.failure_of_finish unfinished with ⟨start, body, same, bracket⟩ | unplaced
    · cases same
      have reached : Draft.Reached text.toList last := Draft.reached_of_run run
      obtain ⟨front, draft, split, place, unclosed, before, free⟩ := reached.bracket bracket
      exact ⟨rfl, front, body, draft, split, place, unclosed, before, free⟩
    · cases unplaced

/-- A failure that names a character carries the text and the position of that character, counted
in characters. A bracket that is left open is an opening bracket without a closing one after it.
In the text before the character all is in place. -/
theorem parseSpans_position (text : String) :
    (∀ path position found, parseSpans text = .error (.unexpectedCharacter path position found) →
      path = text ∧ text.toList[position]? = some found ∧
        Placed (String.ofList (text.toList.take position))) ∧
    ∀ path position, parseSpans text = .error (.unclosedBracket path position) →
      path = text ∧ text.toList[position]? = some '[' ∧
        ']' ∉ text.toList.drop (position + 1) ∧
        Placed (String.ofList (text.toList.take position)) := by
  constructor
  · intro path position found failed
    obtain ⟨same, front, back, draft, split, rfl, reached, free⟩ := unexpected_of_parseSpans failed
    rw [split, List.take_left]
    exact ⟨same, by simp, reached.placed free⟩
  · intro path position failed
    obtain ⟨same, front, body, draft, split, rfl, unclosed, reached, free⟩ :=
      unclosed_of_parseSpans failed
    have after : (front ++ '[' :: body).drop (front.length + 1) = body := by
      rw [← List.drop_drop, List.drop_left]
      rfl
    rw [split, after, List.take_left]
    exact ⟨same, by simp, unclosed, reached.placed free⟩

/-- Behind a character of two bytes, an escaped bracket and a bracket with marks in it, a letter
follows a bracket and a bracket is left open. -/
theorem parseSpans_position_escaped :
    let unexpected := "é\\[a[k=.|[]x"
    let unclosed := "é\\[a[k=.|[].b[0"
    parseSpans unexpected = .error (.unexpectedCharacter unexpected 11 'x') ∧
      unexpected.toList[11]? = some 'x' ∧
      Placed (String.ofList (unexpected.toList.take 11)) ∧
      parseSpans unclosed = .error (.unclosedBracket unclosed 13) ∧
      unclosed.toList[13]? = some '[' ∧ ']' ∉ unclosed.toList.drop 14 ∧
      Placed (String.ofList (unclosed.toList.take 13)) := by
  intro unexpected unclosed
  have first : parseSpans unexpected = .error (.unexpectedCharacter unexpected 11 'x') := by
    decide +kernel
  have second : parseSpans unclosed = .error (.unclosedBracket unclosed 13) := by decide +kernel
  obtain ⟨-, found, before⟩ := (parseSpans_position unexpected).1 _ _ _ first
  obtain ⟨-, opening, after, whole⟩ := (parseSpans_position unclosed).2 _ _ second
  exact ⟨first, found, before, second, opening, after, whole⟩

end Graft.Path
