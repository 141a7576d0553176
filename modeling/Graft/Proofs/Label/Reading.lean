/-
This file states how the parts of a condition are read: a list of values, an equality or the
presence of a label, each behind a key.
-/

import Graft.Label.Parse
import Graft.Proofs.Result
import Graft.Proofs.Text
import Mathlib.Data.List.Forall2

namespace Graft.Label

/-- The characters of a key lie between the hyphen and the last small letter. -/
theorem bounds_of_isKeyCharacter {character : Char} (named : isKeyCharacter character = true) :
    '-'.toNat ≤ character.toNat ∧ character.toNat ≤ 'z'.toNat := by
  have cases : character.isAlphanum = true ∨ character = '-' ∨ character = '_' ∨
      character = '.' ∨ character = '/' := by
    simpa [isKeyCharacter, isValueCharacter, or_assoc] using named
  rcases cases with alphanumeric | rfl | rfl | rfl | rfl
  · have ranges : ((decide ('A'.val ≤ character.val ∧ character.val ≤ 'Z'.val) ||
        (decide ('a'.val ≤ character.val) && decide (character.val ≤ 'z'.val))) ||
          (decide ('0'.val ≤ character.val) && decide (character.val ≤ '9'.val))) = true :=
      alphanumeric
    simp only [Bool.or_eq_true, Bool.and_eq_true, decide_eq_true_eq,
      UInt32.le_iff_toNat_le] at ranges
    change ((65 ≤ character.toNat ∧ character.toNat ≤ 90) ∨
      (97 ≤ character.toNat ∧ character.toNat ≤ 122)) ∨
        (48 ≤ character.toNat ∧ character.toNat ≤ 57) at ranges
    change 45 ≤ character.toNat ∧ character.toNat ≤ 122
    omega
  all_goals decide

/-- The characters of a key are no blanks. -/
theorem isBlank_of_isKeyCharacter {character : Char} (named : isKeyCharacter character = true) :
    Text.isBlank character = false := by
  obtain ⟨above, below⟩ := bounds_of_isKeyCharacter named
  change 45 ≤ character.toNat at above
  change character.toNat ≤ 122 at below
  simp only [Text.isBlank, Bool.or_eq_false_iff, Bool.and_eq_false_iff, decide_eq_false_iff_not,
    beq_eq_false_iff_ne]
  omega

/-- The characters of a value may stand in a key. -/
theorem isKeyCharacter_of_isValue {value : List Char} (valid : isValue value = true) :
    ∀ character ∈ value, isKeyCharacter character = true := by
  intro character member
  have marked := List.all_eq_true.mp valid character member
  simp only [isKeyCharacter, marked, Bool.true_or]

/-- A key starts with a letter or a digit, and has key characters only. -/
theorem isKeyCharacter_of_isKey {key : List Char} (named : isKey key = true) :
    ∀ character ∈ key, isKeyCharacter character = true := by
  cases key with
  | nil => cases named
  | cons first rest =>
      obtain ⟨starts, later⟩ := Bool.and_eq_true_iff.mp named
      have firstNamed : isKeyCharacter first = true := by
        simp only [isKeyCharacter, isValueCharacter, starts, Bool.true_or]
      exact List.forall_mem_cons.mpr ⟨firstNamed, List.all_eq_true.mp later⟩

/-- A word has no blanks to drop. -/
theorem dropWhile_named {word : List Char}
    (named : ∀ character ∈ word, isKeyCharacter character = true) :
    word.dropWhile Text.isBlank = word := by
  apply List.dropWhile_eq_self_iff.mpr
  intro inside
  have marked := isBlank_of_isKeyCharacter (named _ (List.getElem_mem inside))
  simp [marked]

/-- A key is cut off where a character follows that is no key character. -/
theorem cutKey_append {key rest : List Char}
    (named : ∀ character ∈ key, isKeyCharacter character = true)
    (ends : ∀ first ∈ rest.head?, isKeyCharacter first = false) :
    cutKey (key ++ rest) = (key, rest) := by
  rw [cutKey, List.takeWhile_append_of_pos named, List.dropWhile_append_of_pos named]
  cases rest with
  | nil => simp
  | cons first rest =>
      have ended : ¬ isKeyCharacter first = true := by simp [ends first rfl]
      rw [List.takeWhile_cons_of_neg ended, List.dropWhile_cons_of_neg ended, List.append_nil]

/-- A word at the start of a text is cut off. -/
theorem afterWord?_append (word : String) (rest : List Char) :
    afterWord? word (word.toList ++ rest) = some rest := by
  have starts : word.toList.isPrefixOf (word.toList ++ rest) = true :=
    List.isPrefixOf_iff_prefix.mpr (List.prefix_append _ _)
  rw [afterWord?, if_pos starts, ← String.length_toList, List.drop_left]

/-- A word that no blank follows starts no list of values. -/
theorem parseSet?_unspaced {key rest : List Char}
    (named : ∀ character ∈ key, isKeyCharacter character = true)
    (ends : ∀ first ∈ rest.head?, isKeyCharacter first = false)
    (unspaced : rest.head?.any Text.isBlank = false) : parseSet? (key ++ rest) = none := by
  simp only [parseSet?, cutKey_append named ends, unspaced, Bool.not_false, Bool.or_true, if_true]

/-- Behind a key and a blank one of two words starts the list of values. -/
theorem parseSet?_spaced {key rest list : List Char} (named : isKey key = true)
    (starts : ∀ first ∈ rest.head?, Text.isBlank first = false) :
    (afterWord? "in" rest = some list →
      parseSet? (key ++ ' ' :: rest) = (listed? list).map (.among (String.ofList key))) ∧
    (afterWord? "in" rest = none → afterWord? "notin" rest = some list →
      parseSet? (key ++ ' ' :: rest) = (listed? list).map (.notAmong (String.ofList key))) := by
  have ends : ∀ first ∈ (' ' :: rest).head?, isKeyCharacter first = false := by simp; decide
  have cut := cutKey_append (isKeyCharacter_of_isKey named) ends
  have blank : Text.isBlank ' ' = true := rfl
  have spaced : ([' '] ++ rest).dropWhile Text.isBlank = rest :=
    Text.dropWhile_blanks (List.forall_mem_singleton.mpr blank) starts
  rw [List.singleton_append] at spaced
  have accepted : (!isKey key || !(' ' :: rest).head?.any Text.isBlank) = false := by
    simp [named, blank]
  constructor
  · intro word
    simp only [parseSet?, cut, accepted, spaced, word, Bool.false_eq_true, if_false]
  · intro noWord word
    simp only [parseSet?, cut, accepted, spaced, noWord, word, Bool.false_eq_true, if_false]

/-- An equals sign is the whole operator in front of a value. -/
theorem cutOperator?_equals {value : List Char}
    (named : ∀ character ∈ value, isKeyCharacter character = true) :
    cutOperator? ('=' :: value) = some (false, value) := by
  rw [cutOperator?]
  rintro rest rfl
  exact absurd (named '=' (by simp)) (by decide)

/-- An exclamation mark in front of a key is no operator. -/
theorem cutOperator?_absent {key : List Char}
    (named : ∀ character ∈ key, isKeyCharacter character = true) :
    cutOperator? ('!' :: key) = none := by
  rw [cutOperator?]
  · nofun
  · rintro rest same
    obtain rfl : key = '=' :: rest := by simpa using same
    exact absurd (named '=' (by simp)) (by decide)
  · nofun

/-- A key behind which no operator stands starts no equality. -/
theorem parseEquality?_eq_none {key rest : List Char}
    (named : ∀ character ∈ key, isKeyCharacter character = true)
    (ends : ∀ first ∈ rest.head?, isKeyCharacter first = false)
    (missing : cutOperator? (rest.dropWhile Text.isBlank) = none) :
    parseEquality? (key ++ rest) = none := by
  simp only [parseEquality?, cutKey_append named ends, missing]

/-- A key, an operator and a value are an equality. -/
theorem parseEquality?_append {key rest value : List Char} {negative : Bool}
    (named : isKey key = true) (ends : ∀ first ∈ rest.head?, isKeyCharacter first = false)
    (operator : cutOperator? (rest.dropWhile Text.isBlank) = some (negative, value))
    (valid : isValue value = true) :
    parseEquality? (key ++ rest) =
      some (if negative then .differs (String.ofList key) (String.ofList value)
        else .equals (String.ofList key) (String.ofList value)) := by
  have bare := dropWhile_named (isKeyCharacter_of_isValue valid)
  simp only [parseEquality?, cutKey_append (isKeyCharacter_of_isKey named) ends, operator, bare,
    named, valid, Bool.and_self, if_true]

/-- A key alone asks for its label. -/
theorem parsePresence?_key {key : List Char} (named : isKey key = true) :
    parsePresence? key = some (.present (String.ofList key)) := by
  have characters := isKeyCharacter_of_isKey named
  rw [parsePresence?]
  · simp only [dropWhile_named characters, named, if_true]
  · rintro rest rfl
    cases named

/-- A key behind an exclamation mark asks for its label to be missing. -/
theorem parsePresence?_absent {key : List Char} (named : isKey key = true) :
    parsePresence? ('!' :: key) = some (.absent (String.ofList key)) := by
  simp only [parsePresence?, dropWhile_named (isKeyCharacter_of_isKey named), named, if_true]

/-- The parts of a text give some requirements exactly when those that are not blank are read as
these requirements, one by one. -/
theorem parseParts_eq_ok_iff {parts : List (List Char)} {requirements : List Requirement} :
    parseParts parts = .ok requirements ↔
      List.Forall₂ (fun part requirement => parseRequirement? part = some requirement)
        ((parts.map Text.trim).filter (!·.isEmpty)) requirements := by
  induction parts generalizing requirements with
  | nil => simp [parseParts, eq_comm]
  | cons part rest inductionHypothesis =>
      simp only [parseParts, List.map_cons]
      by_cases blank : (Text.trim part).isEmpty = true
      · rw [if_pos blank, List.filter_cons_of_neg (by simp [blank])]
        exact inductionHypothesis
      · rw [if_neg blank, List.filter_cons_of_pos (by simpa using blank)]
        cases read : parseRequirement? (Text.trim part) with
        | none => simp [List.forall₂_cons_left_iff, read]
        | some first =>
            simp only [Result.map_eq_ok, List.forall₂_cons_left_iff, read, Option.some.injEq,
              inductionHypothesis]
            constructor
            · rintro ⟨others, later, rfl⟩
              exact ⟨first, others, rfl, later, rfl⟩
            · rintro ⟨_, others, rfl, later, rfl⟩
              exact ⟨others, later, rfl⟩

/-- A text is read as a condition part by part. -/
theorem parseCondition_eq_ok_iff {text : String} {condition : Condition} :
    parseCondition text = .ok condition ↔
      ∃ parts, splitParts false text.toList = .ok parts ∧
        parseParts parts = .ok condition.requirements := by
  rw [parseCondition, Result.bind_eq_ok]
  apply exists_congr
  intro parts
  apply and_congr_right
  intro _
  rw [Result.bind_eq_ok]
  constructor
  · rintro ⟨requirements, read, same⟩
    cases same
    exact read
  · intro read
    exact ⟨condition.requirements, read, rfl⟩

end Graft.Label
