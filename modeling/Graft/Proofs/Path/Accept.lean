/-
This file shows that the texts that are read as paths are exactly those of the grammar, each with
the spans that it spells.
-/

import Graft.Proofs.Path.Hold

namespace Graft.Path

namespace Draft

/-- A draft in which a key may start. -/
structure Fresh (draft : Draft) : Prop where
  key : draft.key = []
  mode : draft.mode = .within

/-- A draft with these spans that has these segments after the end of its key. -/
structure Settled (draft : Draft) (spans : List Span) (segments : Span) : Prop where
  spans : draft.spans = spans
  segments : draft.endKey.segments = segments
  free : draft.mode = .within ∨ draft.mode = .closed

variable {draft : Draft} {spans : List Span} {segments : Span}

/-- Without an open key the segments are those of the draft. -/
theorem settled_of_key (noKey : draft.key = []) (sameSpans : draft.spans = spans)
    (sameSegments : draft.segments = segments)
    (free : draft.mode = .within ∨ draft.mode = .closed) : draft.Settled spans segments :=
  ⟨sameSpans, by rwa [endKey_of_key noKey], free⟩

variable (path : String)

/-- A separator is read alike within a span and after a bracket. -/
theorem step_separator {character : Char} (free : draft.mode = .within ∨ draft.mode = .closed)
    (separator : character = '.' ∨ character = '|' ∨ character = '[') :
    draft.step path character = (do
      return { ← draft.read path character with position := draft.position + 1 }) := by
  rcases free with within | closed
  · rw [step, within]
  · rw [step, closed]
    simp only [if_pos separator]

/-- A point ends a key. -/
theorem run_point (settled : draft.Settled spans segments) :
    ∃ next, draft.step path '.' = .ok next ∧ next.Settled spans segments ∧ next.Fresh := by
  let next : Draft := { draft.endKey with mode := .within, position := draft.position + 1 }
  have noKey : next.key = [] := key_endKey draft
  have sameSpans : next.spans = spans := (spans_endKey draft).trans settled.spans
  exact ⟨next, step_separator path settled.free (.inl rfl),
    settled_of_key noKey sameSpans settled.segments (.inl rfl), ⟨noKey, rfl⟩⟩

/-- Points keep the segments. A key may start after them, unless there are none and no key could
start before. -/
theorem run_points (count : Nat) (settled : draft.Settled spans segments) :
    ∃ next, (List.replicate count '.').foldlM (step path) draft = .ok next ∧
      next.Settled spans segments ∧ (draft.Fresh ∨ 0 < count → next.Fresh) := by
  induction count generalizing draft with
  | zero => exact ⟨draft, rfl, settled, fun fresh => by simpa using fresh⟩
  | succ count inductionHypothesis =>
      obtain ⟨middle, stepped, middleSettled, middleFresh⟩ := run_point path settled
      obtain ⟨next, run, nextSettled, kept⟩ := inductionHypothesis middleSettled
      refine ⟨next, ?_, nextSettled, fun _ => kept (.inl middleFresh)⟩
      rw [List.replicate_succ, List.foldlM_cons, stepped, Result.ok_bind, run]

/-- A character that is no mark continues a key. -/
theorem step_ordinary {character : Char} (within : draft.mode = .within)
    (ordinary : isMark character = false) :
    draft.step path character =
      .ok { draft with key := draft.key ++ [character], position := draft.position + 1 } := by
  simp only [isMark, Bool.or_eq_false_iff, beq_eq_false_iff_ne] at ordinary
  obtain ⟨⟨⟨⟨notEscape, notPoint⟩, notBar⟩, notOpening⟩, notClosing⟩ := ordinary
  have taken : draft.read path character =
      .ok { draft with key := draft.key ++ [character] } := by
    rw [read.eq_def]
    split
    · contradiction
    · contradiction
    · contradiction
    · contradiction
    · contradiction
    · rfl
  rw [step, within]
  simp only [taken]
  rw [← within]
  rfl

/-- The spelling of a key continues the key. -/
theorem run_key {name spelling : List Char} (within : draft.mode = .within)
    (spelled : SpellsKey name spelling) :
    spelling.foldlM (step path) draft =
      .ok { draft with key := draft.key ++ name, position := draft.position + spelling.length } := by
  induction spelled generalizing draft with
  | nil => simp
  | @plain character name spelling ordinary _ inductionHypothesis =>
      rw [List.foldlM_cons, step_ordinary path within ordinary, Result.ok_bind]
      refine (inductionHypothesis (by exact within)).trans ?_
      simp only [List.append_assoc, List.singleton_append, List.length_cons]
      congr 2
      omega
  | @escaped name spelling character _ inductionHypothesis =>
      have opened : draft.step path '\\' =
          .ok { draft with mode := .escaped, position := draft.position + 1 } := by
        rw [step, within]
        rfl
      have taken : step path { draft with mode := .escaped, position := draft.position + 1 }
          character = .ok { draft with
            key := draft.key ++ [character], position := draft.position + 1 + 1 } := by
        rw [step, ← within]
        rfl
      rw [List.foldlM_cons, opened, Result.ok_bind, List.foldlM_cons, taken, Result.ok_bind]
      refine (inductionHypothesis (by exact within)).trans ?_
      simp only [List.append_assoc, List.singleton_append, List.length_cons]
      congr 2
      omega

/-- The text between brackets is kept as it is. -/
theorem run_body {start : Nat} {before body : List Char} (mode : draft.mode = .bracket start before)
    (closed : ']' ∉ body) :
    body.foldlM (step path) draft = .ok { draft with
      mode := .bracket start (before ++ body), position := draft.position + body.length } := by
  induction body generalizing draft before with
  | nil => simp [← mode]
  | cons character rest inductionHypothesis =>
      obtain ⟨other, restClosed⟩ := not_or.mp (mt List.mem_cons.mpr closed)
      have stepped : draft.step path character = .ok { draft with
          mode := .bracket start (before ++ [character]), position := draft.position + 1 } := by
        rw [step, mode]
        simp only [if_neg (Ne.symm other)]
        rfl
      rw [List.foldlM_cons, stepped, Result.ok_bind]
      refine (inductionHypothesis rfl restClosed).trans ?_
      simp only [List.append_assoc, List.singleton_append, List.length_cons]
      congr 2
      omega

/-- A bracket adds the segment that it encloses. -/
theorem run_bracket {body : List Char} {segment : Segment}
    (settled : draft.Settled spans segments) (encloses : Encloses body segment)
    (closed : ']' ∉ body) :
    ∃ next, ('[' :: body ++ [']']).foldlM (step path) draft = .ok next ∧
      next.Settled spans (segments ++ [segment]) := by
  let opened : Draft :=
    { draft.endKey with mode := .bracket draft.position [], position := draft.position + 1 }
  let filled : Draft := { opened with
    mode := .bracket draft.position body, position := opened.position + body.length }
  let left : Draft := { filled with
    segments := filled.segments ++ [segment], mode := .closed, position := filled.position + 1 }
  have opening : draft.step path '[' = .ok opened :=
    step_separator path settled.free (.inr (.inr rfl))
  have mode : opened.mode = .bracket draft.position [] := rfl
  have filling : body.foldlM (step path) opened = .ok filled := run_body path mode closed
  have closing : filled.step path ']' = .ok left := by
    rw [step]
    simp only [filled, if_true, bracketSegment_eq_ok_iff.mpr encloses]
    rfl
  have noKey : left.key = [] := key_endKey draft
  have sameSpans : left.spans = spans := (spans_endKey draft).trans settled.spans
  have sameSegments : left.segments = segments ++ [segment] :=
    congrArg (· ++ [segment]) settled.segments
  refine ⟨left, ?_, settled_of_key noKey sameSpans sameSegments (.inr rfl)⟩
  rw [List.cons_append, List.foldlM_cons, opening, Result.ok_bind]
  refine Result.foldlM_append filling ?_
  rw [List.foldlM_cons, closing, Result.ok_bind, List.foldlM_nil, Result.pure_eq_ok]

/-- The spelling of a segment adds the segment. Where it is a key, a key has to be able to
start. -/
theorem run_segment {segment : Segment} {spelling : List Char}
    (settled : draft.Settled spans segments) (spelled : SpellsSegment segment spelling)
    (fresh : ∀ name, segment = .key name → draft.Fresh) :
    ∃ next, spelling.foldlM (step path) draft = .ok next ∧
      next.Settled spans (segments ++ [segment]) := by
  cases spelled with
  | @key name _ given spelled =>
      obtain ⟨empty, within⟩ := fresh _ rfl
      refine ⟨_, run_key path within spelled, settled.spans, ?_, .inl within⟩
      have before : draft.segments = segments := by
        rw [← settled.segments, endKey_of_key empty]
      have nonempty : name.isEmpty = false := by simpa using given
      simp only [endKey, empty, List.nil_append, nonempty, Bool.false_eq_true, if_false, before]
  | bracket encloses closed => exact run_bracket path settled encloses closed

/-- Points and the spelling of a segment add the segment. -/
theorem run_item {segment : Segment} {spelling : List Char} (count : Nat)
    (settled : draft.Settled spans segments) (spelled : SpellsSegment segment spelling)
    (apart : ∀ name, segment = .key name → draft.Fresh ∨ 0 < count) :
    ∃ next, (List.replicate count '.' ++ spelling).foldlM (step path) draft = .ok next ∧
      next.Settled spans (segments ++ [segment]) := by
  obtain ⟨middle, pointsRun, middleSettled, fresh⟩ := run_points path count settled
  obtain ⟨next, segmentRun, nextSettled⟩ :=
    run_segment path middleSettled spelled fun name same => fresh (apart name same)
  exact ⟨next, Result.foldlM_append pointsRun segmentRun, nextSettled⟩

/-- The rest of a span adds its segments. -/
theorem run_rest {span : Span} {text : List Char} (settled : draft.Settled spans segments)
    (spelled : SpellsRest span text) :
    ∃ next, text.foldlM (step path) draft = .ok next ∧
      next.Settled spans (segments ++ span) := by
  induction spelled generalizing draft segments with
  | nil points =>
      obtain ⟨next, run, nextSettled, -⟩ := run_points path points settled
      rw [List.append_nil]
      exact ⟨next, run, nextSettled⟩
  | @cons segment rest _ _ points apart spelled _ inductionHypothesis =>
      obtain ⟨middle, itemRun, middleSettled⟩ :=
        run_item path points settled spelled fun name same => .inr (apart name same)
      obtain ⟨last, restRun, lastSettled⟩ := inductionHypothesis middleSettled
      rw [List.append_assoc, List.singleton_append] at lastSettled
      exact ⟨last, Result.foldlM_append itemRun restRun, lastSettled⟩

/-- A span adds its segments. -/
theorem run_span {span : Span} {text : List Char} (settled : draft.Settled spans [])
    (fresh : draft.Fresh) (spelled : SpellsSpan span text) :
    ∃ next, text.foldlM (step path) draft = .ok next ∧ next.Settled spans span := by
  cases spelled with
  | @cons segment rest _ _ points spelled later =>
      obtain ⟨middle, itemRun, middleSettled⟩ :=
        run_item path points settled spelled fun _ _ => .inl fresh
      obtain ⟨last, restRun, lastSettled⟩ := run_rest path middleSettled later
      exact ⟨last, Result.foldlM_append itemRun restRun, lastSettled⟩

/-- A bar after a span starts the next one. -/
theorem run_bar {span : Span} (settled : draft.Settled spans span) (given : span ≠ []) :
    ∃ next, draft.step path '|' = .ok next ∧ next.Settled (spans ++ [span]) [] ∧ next.Fresh := by
  let next : Draft := { draft.endKey with
    spans := draft.endKey.spans ++ [draft.endKey.segments], segments := [], mode := .within,
    position := draft.position + 1 }
  have noKey : next.key = [] := key_endKey draft
  have sameSpans : next.spans = spans ++ [span] := by
    simp only [next, spans_endKey, settled.spans, settled.segments]
  have nonempty : draft.endKey.segments.isEmpty = false := by
    rw [settled.segments]
    simpa using given
  refine ⟨next, ?_, settled_of_key noKey sameSpans rfl (.inl rfl), ⟨noKey, rfl⟩⟩
  rw [step_separator path settled.free (.inr (.inl rfl))]
  simp only [read, endSpan, nonempty, Bool.false_eq_true, if_false]
  rfl

/-- The end of the text finishes a span. -/
theorem finish_settled {span : Span} (settled : draft.Settled spans span) (given : span ≠ []) :
    draft.finish path = .ok (spans ++ [span]) := by
  have nonempty : span.isEmpty = false := by simpa using given
  rw [finish]
  split
  · rename_i escaped
    rcases settled.free with free | free <;> cases free.symm.trans escaped
  · rename_i bracket
    rcases settled.free with free | free <;> cases free.symm.trans bracket
  · simp only [settled.segments, nonempty, Bool.false_eq_true, if_false, spans_endKey,
      settled.spans]

/-- Spans that are separated by bars are read one after another. -/
theorem run_spans {others : List Span} {spellings : List (List Char)} (given : others ≠ [])
    (settled : draft.Settled spans []) (fresh : draft.Fresh)
    (spelled : List.Forall₂ SpellsSpan others spellings) :
    ∃ last, (['|'].intercalate spellings).foldlM (step path) draft = .ok last ∧
      last.finish path = .ok (spans ++ others) := by
  induction spelled generalizing draft spans with
  | nil => exact absurd rfl given
  | @cons span text others spellings first later inductionHypothesis =>
      obtain ⟨middle, run, middleSettled⟩ := run_span path settled fresh first
      cases later with
      | nil =>
          refine ⟨middle, ?_, finish_settled path middleSettled first.wellFormed.1⟩
          simpa [List.intercalate] using run
      | @cons next nextText others spellings second later =>
          obtain ⟨start, stepped, startSettled, startFresh⟩ :=
            run_bar path middleSettled first.wellFormed.1
          obtain ⟨last, restRun, finished⟩ :=
            inductionHypothesis (by simp) startSettled startFresh
          refine ⟨last, ?_, by rwa [List.append_assoc] at finished⟩
          have split : ['|'].intercalate (text :: nextText :: spellings) =
              text ++ '|' :: ['|'].intercalate (nextText :: spellings) := by
            simp [List.intercalate]
          rw [split]
          refine Result.foldlM_append run ?_
          rw [List.foldlM_cons, stepped, Result.ok_bind, restRun]

end Draft

/-- A text is read as the spans that it spells, and a text that spells no spans is refused. -/
theorem parseSpans_eq_ok_iff {text : String} {spans : List Span} :
    parseSpans text = .ok spans ↔ Spells spans text.toList := by
  constructor
  · intro parsed
    obtain ⟨draft, run, finished⟩ := Result.bind_eq_ok.mp parsed
    have start : Draft.start.Holds [] :=
      ⟨[], [], .nil, ⟨[], [], .points 0, .nil, rfl⟩, rfl⟩
    exact Draft.spells_of_finish (Draft.holds_run start run) finished
  · rintro ⟨given, spellings, spelled, split⟩
    have settled : Draft.start.Settled [] [] := ⟨rfl, rfl, .inl rfl⟩
    obtain ⟨last, run, finished⟩ := Draft.run_spans text given settled ⟨rfl, rfl⟩ spelled
    rw [parseSpans, split, run, Result.ok_bind, finished]
    rfl

end Graft.Path
