/-
This file describes the sets of labels that a text of pairs gives: a set is read back from its
pairs, and the conditions on it do not depend on the order of its labels.
-/

import Graft.Label.Parse
import Graft.Proofs.Entries
import Graft.Proofs.Result
import Graft.Proofs.Text
import Mathlib.Tactic.MkIffOfInductiveProp

namespace Graft.Label

/-- The text of a set of labels: pairs with commas between them. -/
def labelSetText (labels : LabelSet) : String :=
  Text.join "," (labels.map fun label => label.1 ++ "=" ++ label.2)

/-- A label that a pair can spell: its key is not empty and ends at the equals sign, neither part
holds a comma, and neither has blanks at its ends. -/
@[mk_iff]
structure IsPair (label : String × String) : Prop where
  named : label.1 ≠ ""
  undivided : '=' ∉ label.1.toList
  keyUncut : ',' ∉ label.1.toList
  keyTrimmed : Text.trimmed label.1 = label.1
  valueUncut : ',' ∉ label.2.toList
  valueTrimmed : Text.trimmed label.2 = label.2

instance : DecidablePred IsPair := fun label => decidable_of_iff' _ (isPair_iff label)

/-- The characters of a trimmed text are trimmed. -/
theorem trim_toList {text : String} (trimmed : Text.trimmed text = text) :
    Text.trim text.toList = text.toList := by
  have characters := congrArg String.toList trimmed
  rwa [Text.trimmed, String.toList_ofList] at characters

/-- A pair has no blank at its ends. -/
theorem trim_pair {key value : List Char} (named : key ≠ []) (keyTrimmed : Text.trim key = key)
    (valueTrimmed : Text.trim value = value) :
    Text.trim (key ++ '=' :: value) = key ++ '=' :: value := by
  apply Text.trim_eq_self_iff.mpr
  constructor
  · intro first isFirst
    have starts : (key ++ '=' :: value).head? = key.head? := by
      rw [List.head?_append, Option.or_of_isSome (by simpa using named)]
    rw [starts] at isFirst
    exact (Text.trim_eq_self_iff.mp keyTrimmed).1 first isFirst
  · intro last isLast
    cases value with
    | nil =>
        rw [List.getLast?_concat] at isLast
        obtain rfl := Option.some.inj isLast
        decide
    | cons first rest =>
        have ends : (key ++ '=' :: first :: rest).getLast? = (first :: rest).getLast? := by
          simp [List.getLast?_append, List.getLast?_cons]
        rw [ends] at isLast
        exact (Text.trim_eq_self_iff.mp valueTrimmed).2 last isLast

/-- A label is read back from its pair. -/
theorem parsePair_text {label : String × String} (isPair : IsPair label) :
    parsePair (label.1.toList ++ '=' :: label.2.toList) = .ok label := by
  have cut : Text.cut? '=' (label.1.toList ++ '=' :: label.2.toList) =
      some (label.1.toList, label.2.toList) := Text.cut?_eq_some_iff.mpr ⟨rfl, isPair.undivided⟩
  have named : label.1.toList.isEmpty = false := by
    simpa using isPair.named
  simp only [parsePair, cut, trim_toList isPair.keyTrimmed, trim_toList isPair.valueTrimmed, named,
    String.ofList_toList, Bool.false_eq_true, if_false]

/-- Labels are read back from their pairs. -/
theorem parsePairs_text {labels : LabelSet} (pairs : ∀ label ∈ labels, IsPair label) :
    parsePairs (labels.map fun label => label.1.toList ++ '=' :: label.2.toList) = .ok labels := by
  induction labels with
  | nil => rfl
  | cons label rest inductionHypothesis =>
      obtain ⟨isPair, restPairs⟩ := List.forall_mem_cons.mp pairs
      have named : label.1.toList ≠ [] := mt String.toList_eq_nil_iff.mp isPair.named
      have trimmed := trim_pair named (trim_toList isPair.keyTrimmed)
        (trim_toList isPair.valueTrimmed)
      have given : (label.1.toList ++ '=' :: label.2.toList).isEmpty = false := by simp
      simp only [List.map_cons, parsePairs, trimmed, given, Bool.false_eq_true, if_false,
        parsePair_text isPair, inductionHypothesis restPairs, Result.ok_bind, Result.pure_eq_ok]

/-- A set of labels with distinct keys is read back from its text. -/
theorem parseLabelSet_text {labels : LabelSet} (pairs : ∀ label ∈ labels, IsPair label)
    (distinct : (Entries.keys labels).Nodup) :
    parseLabelSet (labelSetText labels) = .ok labels := by
  by_cases none : labels = []
  · subst none
    rfl
  · let texts := labels.map fun label => label.1.toList ++ '=' :: label.2.toList
    have joined : (labelSetText labels).toList = [','].intercalate texts := by
      simp [labelSetText, Text.join, String.toList_intercalate, texts, Function.comp_def]
    have unmarked : ∀ text ∈ texts, ',' ∉ text := by
      intro text isText
      obtain ⟨label, member, rfl⟩ := List.mem_map.mp isText
      simp [(pairs label member).keyUncut, (pairs label member).valueUncut]
    have split : Text.pieces ',' (labelSetText labels).toList = texts := by
      rw [joined]
      exact Text.pieces_intercalate (by simpa [texts] using none) unmarked
    rw [parseLabelSet, split, parsePairs_text pairs]
    exact congrArg Except.ok (Entries.ofPairs_of_nodup distinct)

/-- Why a part of a text is no pair: it has no equals sign, or only blanks stand in front of the
first one. A blank part is left out and is no fault. -/
inductive Faulty (part : List Char) : LabelSetFault → Prop where
  | noPair (given : Text.trim part ≠ []) (undivided : '=' ∉ Text.trim part) :
      Faulty part (.noPair (String.ofList (Text.trim part)))
  | emptyKey {key value : List Char} (split : Text.trim part = key ++ '=' :: value)
      (first : '=' ∉ key) (blank : Text.trim key = []) :
      Faulty part (.emptyKey (String.ofList (Text.trim part)))

/-- A part that is not blank gives a label unless it is faulty. -/
theorem parsePair_eq_error_iff {part : List Char} {fault : LabelSetFault}
    (given : Text.trim part ≠ []) :
    parsePair (Text.trim part) = .error fault ↔ Faulty part fault := by
  rw [parsePair]
  cases cut : Text.cut? '=' (Text.trim part) with
  | none =>
      have undivided : '=' ∉ Text.trim part := by
        intro member
        obtain ⟨key, value, split, first⟩ := List.eq_append_cons_of_mem member
        rw [Text.cut?_eq_some_iff.mpr ⟨split, first⟩] at cut
        cases cut
      constructor
      · rintro ⟨⟩
        exact .noPair given undivided
      · intro faulty
        cases faulty with
        | noPair _ _ => rfl
        | emptyKey split _ _ => exact absurd (by simp [split]) undivided
  | some pair =>
      obtain ⟨key, value⟩ := pair
      obtain ⟨split, first⟩ := Text.cut?_eq_some_iff.mp cut
      by_cases blank : Text.trim key = []
      · simp only [blank, List.isEmpty_nil, if_true]
        constructor
        · rintro ⟨⟩
          exact .emptyKey split first blank
        · intro faulty
          cases faulty with
          | noPair _ undivided => exact absurd (by simp [split]) undivided
          | emptyKey _ _ _ => rfl
      · have named : (Text.trim key).isEmpty = false := by simpa using blank
        simp only [named, Bool.false_eq_true, if_false, reduceCtorEq, false_iff]
        intro faulty
        cases faulty with
        | noPair _ undivided => exact absurd (by simp [split]) undivided
        | emptyKey otherSplit otherFirst otherBlank =>
            have same := cut.symm.trans (Text.cut?_eq_some_iff.mpr ⟨otherSplit, otherFirst⟩)
            cases same
            exact blank otherBlank

/-- A blank part has no fault. -/
theorem not_faulty_of_blank {part : List Char} (blank : Text.trim part = [])
    (fault : LabelSetFault) : ¬ Faulty part fault := by
  intro faulty
  cases faulty with
  | noPair given _ => exact given blank
  | emptyKey split _ _ => simp [blank] at split

/-- The fault of the first part that has one. -/
inductive FirstFault (fault : LabelSetFault) : List (List Char) → Prop where
  | here {part : List Char} {rest : List (List Char)} (faulty : Faulty part fault) :
      FirstFault fault (part :: rest)
  | later {part : List Char} {rest : List (List Char)} (sound : ∀ other, ¬ Faulty part other)
      (below : FirstFault fault rest) : FirstFault fault (part :: rest)

/-- The first part decides where the first fault is. -/
theorem firstFault_cons_iff {part : List Char} {rest : List (List Char)} {fault : LabelSetFault} :
    FirstFault fault (part :: rest) ↔
      Faulty part fault ∨ (∀ other, ¬ Faulty part other) ∧ FirstFault fault rest := by
  constructor
  · intro first
    cases first with
    | here faulty => exact .inl faulty
    | later sound below => exact .inr ⟨sound, below⟩
  · rintro (faulty | ⟨sound, below⟩)
    · exact .here faulty
    · exact .later sound below

/-- Parts are no set of labels because of the first faulty one. -/
theorem parsePairs_eq_error_iff {parts : List (List Char)} {fault : LabelSetFault} :
    parsePairs parts = .error fault ↔ FirstFault fault parts := by
  induction parts with
  | nil =>
      constructor
      · nofun
      · nofun
  | cons part rest inductionHypothesis =>
      rw [parsePairs, firstFault_cons_iff, ← inductionHypothesis]
      by_cases blank : Text.trim part = []
      · simp [blank, not_faulty_of_blank blank]
      · have given : (Text.trim part).isEmpty = false := by simpa using blank
        simp only [given, Bool.false_eq_true, if_false]
        rw [Result.bind_eq_error, parsePair_eq_error_iff blank]
        apply or_congr_right
        constructor
        · rintro ⟨label, read, restFails⟩
          constructor
          · intro other faulty
            cases read.symm.trans ((parsePair_eq_error_iff blank).mpr faulty)
          · rcases Result.bind_eq_error.mp restFails with failed | ⟨_, _, impossible⟩
            · exact failed
            · cases impossible
        · rintro ⟨sound, restFails⟩
          cases read : parsePair (Text.trim part) with
          | error other => exact absurd ((parsePair_eq_error_iff blank).mp read) (sound other)
          | ok label => exact ⟨label, rfl, Result.bind_eq_error.mpr (.inl restFails)⟩

/-- A text is no set of labels because of the first faulty part between its commas. -/
theorem parseLabelSet_eq_error_iff {text : String} {fault : LabelSetFault} :
    parseLabelSet text = .error fault ↔ FirstFault fault (Text.pieces ',' text.toList) := by
  rw [parseLabelSet, ← parsePairs_eq_error_iff]
  cases parsePairs (Text.pieces ',' text.toList) with
  | error other => rfl
  | ok pairs =>
      constructor
      · nofun
      · nofun

/-- A requirement looks at the value of its key only. -/
theorem Requirement.holds_congr {requirement : Requirement} {first second : LabelSet}
    (same : Entries.find? requirement.key first = Entries.find? requirement.key second) :
    requirement.holds first = requirement.holds second := by
  cases requirement <;> simp only [Requirement.holds, same]

/-- A condition on labels with distinct keys does not depend on their order. -/
theorem Condition.holds_perm {first second : LabelSet} (reordered : first.Perm second)
    (distinct : (Entries.keys first).Nodup) (condition : Condition) :
    condition.holds first = condition.holds second := by
  rw [Condition.holds, Condition.holds]
  congr 1
  funext requirement
  exact Requirement.holds_congr (Entries.find?_perm reordered distinct requirement.key)

end Graft.Label
