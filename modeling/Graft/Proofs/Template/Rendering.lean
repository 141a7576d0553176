/-
This file shows which templates are rendered, and to which text: chunks of the template alternate
with actions, and each action is replaced by the value at the position that it asks for.
-/

import Graft.Proofs.Result
import Graft.Proofs.Template.Action

namespace Graft.Template

/-- A chunk without an opening. -/
def Plain (chunk : List Char) : Prop := ¬ opening.toList <:+: chunk

/-- A chunk in which each opening stays open to the end of its line. The last character does not
become part of an opening that follows. -/
def Passed (chunk : List Char) : Prop :=
  chunk.getLast? ≠ some '{' ∧ ∀ front back, chunk = front ++ '{' :: '{' :: back →
    ∃ line rest, back = line ++ '\n' :: rest ∧ ¬ closing.toList <:+: line

/-- What an action and the chunk before it must satisfy to be told apart: the chunk is passed, and
the action lies in one line. -/
def Separate (chunk body : List Char) : Prop := Passed chunk ∧ '\n' ∉ body

/-- The text of a template is a plain chunk, or a chunk, an action that asks for one of the values,
and the text of another template. Its output has the value in the place of the action. -/
inductive Substituted (joins : List Char → List Char → Prop) (values : List String) :
    List Char → List Char → Prop where
  | last {chunk : List Char} (plain : Plain chunk) : Substituted joins values chunk chunk
  | action {chunk body rest output : List Char} {position : Nat} {value : String}
      (joined : joins chunk body) (asks : Asks body position)
      (found : values[position]? = some value) (others : Substituted joins values rest output) :
      Substituted joins values (chunk ++ opening.toList ++ body ++ closing.toList ++ rest)
        (chunk ++ value.toList ++ output)

theorem toList_opening : opening.toList = ['{', '{'] := rfl

theorem toList_closing : closing.toList = ['}', '}'] := rfl

/-- A body is cut off at a closing in its line. -/
theorem cutBody?_cons {character : Char} {text : List Char}
    (unclosed : ¬ closing.toList <+: character :: text) (oneLine : character ≠ '\n') :
    cutBody? (character :: text) =
      (cutBody? text).map fun (body, after) => (character :: body, after) := by
  rw [cutBody?, if_neg oneLine]
  rintro rest rfl same
  subst same
  exact unclosed ⟨rest, rfl⟩

/-- What is cut off is the body with the closing after it, in one line. -/
theorem eq_of_cutBody? {text body after : List Char} (cut : cutBody? text = some (body, after)) :
    text = body ++ closing.toList ++ after ∧ '\n' ∉ body := by
  induction text using cutBody?.induct generalizing body after with
  | case1 rest =>
      simp only [cutBody?, Option.some.injEq, Prod.mk.injEq] at cut
      obtain ⟨rfl, rfl⟩ := cut
      exact ⟨rfl, by simp⟩
  | case2 rest different => simp [cutBody?] at cut
  | case3 character rest different oneLine inductionHypothesis =>
      rw [cutBody?, if_neg oneLine, Option.map_eq_some_iff] at cut
      · obtain ⟨⟨others, last⟩, cut, same⟩ := cut
        simp only [Prod.mk.injEq] at same
        obtain ⟨rfl, rfl⟩ := same
        obtain ⟨rfl, others⟩ := inductionHypothesis cut
        exact ⟨by simp, by simp [Ne.symm oneLine, others]⟩
      · exact different
  | case4 => simp [cutBody?] at cut

/-- A body in one line without a brace is cut off at the closing after it. -/
theorem cutBody?_append {body : List Char} (unclosed : '}' ∉ body) (oneLine : '\n' ∉ body)
    (after : List Char) : cutBody? (body ++ closing.toList ++ after) = some (body, after) := by
  induction body with
  | nil => rfl
  | cons first rest inductionHypothesis =>
      simp only [List.mem_cons, not_or] at unclosed oneLine
      have kept : ¬ closing.toList <+: first :: (rest ++ closing.toList ++ after) := by
        rw [toList_closing, List.cons_prefix_cons]
        exact fun starts => unclosed.1 starts.1
      rw [List.cons_append, List.cons_append, cutBody?_cons kept (Ne.symm oneLine.1),
        inductionHypothesis unclosed.2 oneLine.2]
      rfl

/-- Nothing is cut off where the line ends before a closing. -/
theorem cutBody?_line {line : List Char} (unclosed : ¬ closing.toList <:+: line)
    (rest : List Char) : cutBody? (line ++ '\n' :: rest) = none := by
  induction line with
  | nil => simp [cutBody?]
  | cons first others inductionHypothesis =>
      obtain ⟨starts, later⟩ := not_or.mp (mt List.infix_cons_iff.mpr unclosed)
      by_cases lineEnd : first = '\n'
      · subst lineEnd
        simp [cutBody?]
      · have kept : ¬ closing.toList <+: first :: (others ++ '\n' :: rest) := by
          rw [toList_closing, List.cons_prefix_cons] at starts ⊢
          cases others with
          | nil => simp
          | cons second _ => simpa using starts
        rw [List.cons_append, cutBody?_cons kept lineEnd, inductionHypothesis later]
        rfl

/-- Where nothing is cut off although a closing comes, a line ends before it. -/
theorem line_of_cutBody? {text front back : List Char} (uncut : cutBody? text = none)
    (split : text = front ++ closing.toList ++ back) :
    ∃ line rest, front = line ++ '\n' :: rest ∧ ¬ closing.toList <:+: line := by
  induction front generalizing text with
  | nil =>
      subst split
      cases uncut
  | cons first others inductionHypothesis =>
      subst split
      by_cases lineEnd : first = '\n'
      · exact ⟨[], others, by simp [lineEnd], by decide⟩
      · have kept : ¬ closing.toList <+: first :: (others ++ closing.toList ++ back) := by
          rintro ⟨after, starts⟩
          rw [List.cons_append, List.cons_append, ← starts] at uncut
          cases uncut
        rw [List.cons_append, List.cons_append, cutBody?_cons kept lineEnd,
          Option.map_eq_none_iff] at uncut
        obtain ⟨line, rest, rfl, unclosed⟩ := inductionHypothesis uncut rfl
        refine ⟨first :: line, rest, rfl, ?_⟩
        rw [List.infix_cons_iff, not_or]
        refine ⟨fun starts => kept ?_, unclosed⟩
        exact starts.trans (by simp)

/-- An action at the start of a text is the first one. -/
theorem cutAction?_start {inner body after : List Char}
    (cut : cutBody? inner = some (body, after)) :
    cutAction? ('{' :: '{' :: inner) = some ([], body, after) := by
  simp [cutAction?, cut]

/-- Where no action starts, the first one is looked for in the rest. -/
theorem cutAction?_later {character : Char} {text : List Char}
    (unopened : ∀ inner, character :: text = '{' :: '{' :: inner → cutBody? inner = none) :
    cutAction? (character :: text) =
      (cutAction? text).map fun (before, body, after) => (character :: before, body, after) := by
  conv => lhs; rw [cutAction?.eq_def]
  dsimp only
  split
  · rename_i inner
    rw [unopened inner rfl]
  · rfl

/-- The rest of a passed chunk is passed. -/
theorem Passed.tail {character : Char} {chunk : List Char} (passed : Passed (character :: chunk)) :
    Passed chunk := by
  obtain ⟨ends, opened⟩ := passed
  refine ⟨fun last => ends ?_, fun front back split => opened (character :: front) back ?_⟩
  · rw [List.getLast?_cons, last]
    rfl
  · rw [split]
    rfl

/-- The first action after a passed chunk is the one behind it. -/
theorem cutAction?_append {chunk body : List Char} (passed : Passed chunk) (unclosed : '}' ∉ body)
    (oneLine : '\n' ∉ body) (after : List Char) :
    cutAction? (chunk ++ opening.toList ++ body ++ closing.toList ++ after) =
      some (chunk, body, after) := by
  induction chunk with
  | nil => exact cutAction?_start (cutBody?_append unclosed oneLine after)
  | cons first rest inductionHypothesis =>
      have unopened : ∀ inner,
          first :: (rest ++ opening.toList ++ body ++ closing.toList ++ after) =
            '{' :: '{' :: inner → cutBody? inner = none := by
        intro inner split
        obtain ⟨rfl, inside⟩ := List.cons.inj split
        cases rest with
        | nil => exact absurd rfl passed.1
        | cons second others =>
            simp only [List.cons_append, List.cons.injEq] at inside
            obtain ⟨rfl, rfl⟩ := inside
            obtain ⟨line, back, rfl, endless⟩ := passed.2 [] others rfl
            simp only [List.append_assoc, List.cons_append]
            exact cutBody?_line endless _
      simp only [List.cons_append] at unopened ⊢
      rw [cutAction?_later unopened, inductionHypothesis passed.tail]
      rfl

/-- A character that starts no action can be put in front of a passed chunk. -/
theorem Passed.cons {character : Char} {chunk body after : List Char} (passed : Passed chunk)
    (oneLine : '\n' ∉ body)
    (unopened : ∀ inner,
      character :: (chunk ++ opening.toList ++ body ++ closing.toList ++ after) =
        '{' :: '{' :: inner → cutBody? inner = none) : Passed (character :: chunk) := by
  constructor
  · intro last
    cases chunk with
    | nil =>
        obtain rfl : character = '{' := Option.some.inj last
        have uncut : cutBody? (('{' :: body) ++ closing.toList ++ after) = none := unopened _ rfl
        obtain ⟨line, rest, split, -⟩ := line_of_cutBody? uncut rfl
        have lineEnd : '\n' ∈ '{' :: body := by simp [split]
        simp [oneLine] at lineEnd
    | cons first rest => exact passed.1 (by rwa [List.getLast?_cons_cons] at last)
  · intro front back split
    cases front with
    | nil =>
        obtain ⟨rfl, rfl⟩ := List.cons.inj split
        have uncut : cutBody? (back ++ opening.toList ++ body ++ closing.toList ++ after) = none :=
          unopened _ rfl
        obtain ⟨line, rest, split, unclosed⟩ := line_of_cutBody? uncut rfl
        -- The line ends within the chunk, since the action behind it lies in one line.
        rw [List.append_assoc, List.append_eq_append_iff] at split
        obtain ⟨more, rfl, action⟩ | ⟨more, rfl, action⟩ := split
        · have lineEnd : '\n' ∈ opening.toList ++ body := by simp [action]
          rw [List.mem_append, or_iff_left oneLine] at lineEnd
          exact absurd lineEnd (by decide)
        · cases more with
          | nil =>
              cases action
          | cons first rest =>
              obtain ⟨rfl, -⟩ := List.cons.inj action
              exact ⟨line, rest, rfl, unclosed⟩
    | cons first others =>
        exact passed.2 others back (List.cons.inj split).2

/-- The first action of a text lies in one line behind a passed chunk. -/
theorem passed_of_cutAction? {text before body after : List Char}
    (cut : cutAction? text = some (before, body, after)) :
    text = before ++ opening.toList ++ body ++ closing.toList ++ after ∧ Passed before ∧
      '\n' ∉ body := by
  induction text generalizing before with
  | nil => cases cut
  | cons first rest inductionHypothesis =>
      by_cases unopened : ∀ inner, first :: rest = '{' :: '{' :: inner → cutBody? inner = none
      · rw [cutAction?_later unopened, Option.map_eq_some_iff] at cut
        obtain ⟨⟨chunk, found, last⟩, cut, same⟩ := cut
        simp only [Prod.mk.injEq] at same
        obtain ⟨rfl, rfl, rfl⟩ := same
        obtain ⟨rfl, passed, oneLine⟩ := inductionHypothesis cut
        exact ⟨rfl, passed.cons oneLine unopened, oneLine⟩
      · simp only [not_forall] at unopened
        obtain ⟨inner, same, opened⟩ := unopened
        obtain ⟨⟨found, last⟩, cutInner⟩ := Option.ne_none_iff_exists'.mp opened
        rw [same, cutAction?_start cutInner] at cut
        cases cut
        obtain ⟨rfl, oneLine⟩ := eq_of_cutBody? cutInner
        exact ⟨same, ⟨by simp, by simp⟩, oneLine⟩

/-- A plain text has no action. -/
theorem cutAction?_plain {text : List Char} (plain : Plain text) : cutAction? text = none := by
  induction text with
  | nil => rfl
  | cons first rest inductionHypothesis =>
      obtain ⟨starts, later⟩ := not_or.mp (mt List.infix_cons_iff.mpr plain)
      rw [cutAction?_later, inductionHypothesis later]
      · rfl
      · intro inner same
        exact absurd ⟨inner, same.symm⟩ starts

/-- The plain texts are those without an opening. -/
theorem hasOpening_eq_false_iff {text : List Char} : hasOpening text = false ↔ Plain text := by
  induction text using hasOpening.induct with
  | case1 rest =>
      have starts : opening.toList <+: '{' :: '{' :: rest := ⟨rest, rfl⟩
      simp [hasOpening, Plain, starts.isInfix]
  | case2 first rest different inductionHypothesis =>
      rw [hasOpening, inductionHypothesis, Plain, Plain, List.infix_cons_iff, not_or, iff_and_self]
      · rintro - ⟨inner, same⟩
        obtain ⟨rfl, rfl⟩ := List.cons.inj same
        exact different _ rfl rfl
      · exact different
  | case3 => simp [hasOpening, Plain, toList_opening]

/-- An action has a value when it asks for the position of one. -/
theorem actionValue_eq_ok_iff {template : String} {values : List String} {body : List Char}
    {value : String} :
    actionValue template values body = .ok value ↔
      ∃ position, Asks body position ∧ values[position]? = some value := by
  simp only [← position?_eq_some_iff, actionValue]
  cases position? body with
  | none => simp
  | some index =>
      cases found : values[index]? with
      | none => simp [found]
      | some given => simp [found]

/-- A text without an action is rendered as it is, if it is plain. -/
theorem renderFrom_uncut {template : String} {values : List String} {text : List Char}
    (uncut : cutAction? text = none) :
    renderFrom template values text =
      if hasOpening text then .error (.unclosed template) else .ok text := by
  rw [renderFrom]
  split
  · rfl
  · rename_i cut
    cases uncut.symm.trans cut

/-- The first action of a text is rendered before the text after it. -/
theorem renderFrom_cut {template : String} {values : List String}
    {text before body after : List Char} (cut : cutAction? text = some (before, body, after)) :
    renderFrom template values text = (do
      let value ← actionValue template values body
      let rest ← renderFrom template values after
      return before ++ value.toList ++ rest) := by
  rw [renderFrom]
  split
  · rename_i uncut
    cases uncut.symm.trans cut
  · rename_i found
    cases found.symm.trans cut
    rfl

/-- The rest of a template is rendered when it is substituted. -/
theorem renderFrom_eq_ok_iff {template : String} {values : List String}
    {text output : List Char} :
    renderFrom template values text = .ok output ↔ Substituted Separate values text output := by
  constructor
  · intro rendered
    induction text using renderFrom.induct generalizing output with
    | case1 text uncut opened =>
        rw [renderFrom_uncut uncut, if_pos opened] at rendered
        cases rendered
    | case2 text uncut unopened =>
        rw [renderFrom_uncut uncut, if_neg unopened] at rendered
        cases rendered
        exact .last (hasOpening_eq_false_iff.mp (Bool.eq_false_iff.mpr unopened))
    | case3 text before body after cut inductionHypothesis =>
        rw [renderFrom_cut cut] at rendered
        obtain ⟨value, given, rendered⟩ := Result.bind_eq_ok.mp rendered
        obtain ⟨rest, others, rendered⟩ := Result.bind_eq_ok.mp rendered
        cases rendered
        obtain ⟨rfl, passed, oneLine⟩ := passed_of_cutAction? cut
        obtain ⟨position, asks, found⟩ := actionValue_eq_ok_iff.mp given
        exact .action ⟨passed, oneLine⟩ asks found (inductionHypothesis others)
  · intro substituted
    induction substituted with
    | last plain =>
        rw [renderFrom_uncut (cutAction?_plain plain), hasOpening_eq_false_iff.mpr plain,
          if_neg Bool.false_ne_true]
    | action separate asks found _ inductionHypothesis =>
        rw [renderFrom_cut (cutAction?_append separate.1 asks.unclosed separate.2 _),
          actionValue_eq_ok_iff.mpr ⟨_, asks, found⟩, Result.ok_bind, inductionHypothesis,
          Result.ok_bind]
        rfl

/-- A text that is no plain chunk has an action behind a chunk. -/
theorem Substituted.split {joins : List Char → List Char → Prop} {values : List String}
    {text output : List Char} (substituted : Substituted joins values text output) :
    Plain text ∨ ∃ chunk body rest position,
      text = chunk ++ opening.toList ++ body ++ closing.toList ++ rest ∧ joins chunk body ∧
        Asks body position := by
  cases substituted with
  | last plain => exact .inl plain
  | action joined asks _ _ => exact .inr ⟨_, _, _, _, rfl, joined, asks⟩

/-- A template is rendered to a text exactly when the text comes from it by putting values in the
place of actions. Each other opening in the template stays open to the end of its line, and no
opening stands behind the last action. -/
theorem render_eq_ok_iff {template : String} {values : List String} {output : String} :
    render template values = .ok output ↔
      Substituted Separate values template.toList output.toList := by
  rw [← @renderFrom_eq_ok_iff template, render, Result.map_eq_ok]
  constructor
  · rintro ⟨text, rendered, rfl⟩
    rwa [String.toList_ofList]
  · intro rendered
    exact ⟨_, rendered, String.ofList_toList⟩

/-- An opening that its line does not close is rendered as it is when an action follows, so the
chunks of a template that is rendered need not be plain. -/
theorem render_openLine :
    render "\x7b\x7b\n\x7b\x7b0\x7d\x7d" ["a"] = .ok "\x7b\x7b\na" ∧
      ¬ Substituted (fun chunk _ => Plain chunk) ["a"] "\x7b\x7b\n\x7b\x7b0\x7d\x7d".toList
        "\x7b\x7b\na".toList := by
  refine ⟨by decide +kernel, fun substituted => ?_⟩
  have whole : "\x7b\x7b\n\x7b\x7b0\x7d\x7d".toList =
      ['{', '{', '\n', '{', '{', '0', '}', '}'] := by decide
  obtain plain | ⟨chunk, body, rest, position, split, plain, asks⟩ := substituted.split
  · exact plain ⟨[], _, rfl⟩
  · rw [whole] at split
    match chunk, plain with
    | [], _ =>
        have inner : ['\n', '{', '{', '0', '}', '}'] = body ++ '}' :: '}' :: rest := by
          simpa [toList_opening, toList_closing] using split
        -- The body ends before the first closing brace, and it asks for no position.
        have cut := Text.cut?_eq_some_iff.mpr ⟨inner, asks.unclosed⟩
        obtain rfl : ['\n', '{', '{', '0'] = body := by
          have known : Text.cut? '}' ['\n', '{', '{', '0', '}', '}'] =
              some (['\n', '{', '{', '0'], ['}']) := by decide
          exact congrArg Prod.fst (Option.some.inj (known.symm.trans cut))
        have asked := position?_eq_some_iff.mpr asks
        have nothing : position? ['\n', '{', '{', '0'] = none := by decide
        cases nothing.symm.trans asked
    | [_], _ => simp [toList_opening] at split
    | first :: second :: others, plain =>
        simp only [List.cons_append, List.cons.injEq] at split
        obtain ⟨rfl, rfl, -⟩ := split
        exact plain ⟨[], others, rfl⟩

end Graft.Template
