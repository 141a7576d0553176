/-
This file shows that a condition is read back from its printed text, and that each condition that
can be read from some text is one of those.
-/

import Graft.Proofs.Label.Parts
import Graft.Proofs.Label.Reading
import Mathlib.Tactic.TFAE

namespace Graft.Label

/-- The values of a list have value characters only, and none of them is empty. -/
def ValidList (values : List String) : Prop :=
  ∀ value ∈ values, value ≠ "" ∧ isValue value.toList = true

/-- A requirement that a text can spell: its key is a key, and its values are values or a valid
list. -/
def Requirement.WellFormed : Requirement → Prop
  | .present key | .absent key => isKey key.toList = true
  | .equals key value | .differs key value =>
      isKey key.toList = true ∧ isValue value.toList = true
  | .among key values | .notAmong key values =>
      isKey key.toList = true ∧ ValidList values

/-- A condition that a text can spell. -/
def Condition.WellFormed (condition : Condition) : Prop :=
  ∀ requirement ∈ condition.requirements, requirement.WellFormed

/-- The values that are read from a list are a valid list. -/
theorem valid_of_listed? {characters : List Char} {values : List String}
    (read : listed? characters = some values) : ValidList values := by
  rw [listed?] at read
  split at read
  · split at read
    · split at read
      · cases read
      · simp only at read
        split at read
        · rename_i valid
          obtain rfl := Option.some.inj read
          intro value member
          obtain ⟨characters, kept, rfl⟩ := List.mem_map.mp member
          have filled : characters ≠ [] := by simpa using (List.mem_filter.mp kept).2
          rw [String.toList_ofList]
          exact ⟨mt String.ofList_eq_empty_iff.mp filled, List.all_eq_true.mp valid _ kept⟩
        · cases read
    · cases read
  · cases read

/-- A requirement on a list of values is well formed when it is read. -/
theorem wellFormed_of_parseSet? {characters : List Char} {requirement : Requirement}
    (read : parseSet? characters = some requirement) : requirement.WellFormed := by
  simp only [parseSet?] at read
  split at read
  · cases read
  · rename_i spaced
    have named : isKey (cutKey characters).1 = true := by
      simp only [Bool.or_eq_true, Bool.not_eq_true', not_or] at spaced
      simpa using spaced.1
    split at read
    · obtain ⟨values, listed, rfl⟩ := Option.map_eq_some_iff.mp read
      rw [Requirement.WellFormed, String.toList_ofList]
      exact ⟨named, valid_of_listed? listed⟩
    · split at read
      · obtain ⟨values, listed, rfl⟩ := Option.map_eq_some_iff.mp read
        rw [Requirement.WellFormed, String.toList_ofList]
        exact ⟨named, valid_of_listed? listed⟩
      · cases read

/-- A requirement on one value is well formed when it is read. -/
theorem wellFormed_of_parseEquality? {characters : List Char} {requirement : Requirement}
    (read : parseEquality? characters = some requirement) : requirement.WellFormed := by
  simp only [parseEquality?] at read
  split at read
  · rename_i negative rest _
    split at read
    · rename_i both
      obtain ⟨named, valid⟩ := Bool.and_eq_true_iff.mp both
      obtain rfl := Option.some.inj read
      cases negative <;>
        simpa only [Requirement.WellFormed, String.toList_ofList, if_true, if_false,
          Bool.false_eq_true] using And.intro named valid
    · cases read
  · cases read

/-- A requirement on the presence of a label is well formed when it is read. -/
theorem wellFormed_of_parsePresence? {characters : List Char} {requirement : Requirement}
    (read : parsePresence? characters = some requirement) : requirement.WellFormed := by
  unfold parsePresence? at read
  split at read
  all_goals
    simp only at read
    split at read
    · rename_i named
      obtain rfl := Option.some.inj read
      rwa [Requirement.WellFormed, String.toList_ofList]
    · cases read

/-- A requirement that is read is well formed. -/
theorem wellFormed_of_parseRequirement? {characters : List Char} {requirement : Requirement}
    (read : parseRequirement? characters = some requirement) : requirement.WellFormed := by
  rw [parseRequirement?, Option.or_eq_some_iff, Option.or_eq_some_iff] at read
  rcases read with (set | ⟨-, equality⟩) | ⟨-, presence⟩
  · exact wellFormed_of_parseSet? set
  · exact wellFormed_of_parseEquality? equality
  · exact wellFormed_of_parsePresence? presence

/-- The requirements that are read from parts are well formed. -/
theorem wellFormed_of_parseParts {parts : List (List Char)} {requirements : List Requirement}
    (read : parseParts parts = .ok requirements) :
    ∀ requirement ∈ requirements, requirement.WellFormed := by
  have each := parseParts_eq_ok_iff.mp read
  clear read
  generalize (parts.map Text.trim).filter (!·.isEmpty) = given at each
  induction each with
  | nil => simp
  | cons first _ inductionHypothesis =>
      exact List.forall_mem_cons.mpr ⟨wellFormed_of_parseRequirement? first, inductionHypothesis⟩

/-- The characters of a printed requirement. -/
theorem Requirement.toList_text (requirement : Requirement) :
    requirement.text.toList =
      match requirement with
      | .present key => key.toList
      | .absent key => '!' :: key.toList
      | .equals key value => key.toList ++ '=' :: value.toList
      | .differs key value => key.toList ++ '!' :: '=' :: value.toList
      | .among key values => key.toList ++ ' ' :: ("in".toList ++ ' ' :: '(' ::
          ([','].intercalate (values.map String.toList) ++ [')']))
      | .notAmong key values => key.toList ++ ' ' :: ("notin".toList ++ ' ' :: '(' ::
          ([','].intercalate (values.map String.toList) ++ [')'])) := by
  cases requirement <;> simp [Requirement.text, Text.join, String.toList_intercalate]

/-- The characters of a word belong to the part that it stands in. -/
theorem passes_named {word : List Char}
    (named : ∀ character ∈ word, isKeyCharacter character = true) (inside : Bool) :
    ∀ character ∈ word, Passes inside character inside := by
  intro character member
  have marked := named character member
  apply Passes.stays
  · rintro rfl
    exact absurd marked (by decide)
  · rintro rfl
    exact absurd marked (by decide)
  · rintro - rfl
    exact absurd marked (by decide)

/-- The characters between the parentheses of printed values belong to the part. -/
theorem passes_values {values : List String} (valid : ValidList values) :
    ∀ character ∈ [','].intercalate (values.map String.toList), Passes true character true := by
  intro character member
  rcases Text.mem_intercalate member with rfl | ⟨text, isText, inText⟩
  · exact .stays (by decide) (by decide) nofun
  · obtain ⟨value, isMember, rfl⟩ := List.mem_map.mp isText
    exact passes_named (isKeyCharacter_of_isValue (valid value isMember).2) true character inText

/-- The values of a list are what is left of the pieces between its commas. -/
theorem pieces_values {values : List String} (valid : ValidList values) :
    ((Text.pieces ',' ([','].intercalate (values.map String.toList))).map Text.trim).filter
      (!·.isEmpty) = values.map String.toList := by
  by_cases none : values = []
  · subst none
    rfl
  · have given : values.map String.toList ≠ [] := by simpa using none
    have word (text : List Char) (isText : text ∈ values.map String.toList) :
        text ≠ [] ∧ ∀ character ∈ text, isKeyCharacter character = true := by
      obtain ⟨value, member, rfl⟩ := List.mem_map.mp isText
      obtain ⟨filled, marked⟩ := valid value member
      exact ⟨mt String.toList_eq_nil_iff.mp filled, isKeyCharacter_of_isValue marked⟩
    have unmarked : ∀ text ∈ values.map String.toList, ',' ∉ text := by
      intro text isText member
      exact absurd ((word text isText).2 ',' member) (by decide)
    have trimmed : (values.map String.toList).map Text.trim = values.map String.toList :=
      (List.map_congr_left fun text isText => Text.trim_unblank fun character member =>
        isBlank_of_isKeyCharacter ((word text isText).2 character member)).trans (List.map_id _)
    have filled : (values.map String.toList).filter (!·.isEmpty) = values.map String.toList :=
      List.filter_eq_self.mpr fun text isText => by simpa using (word text isText).1
    rw [Text.pieces_intercalate given unmarked, trimmed, filled]

/-- The values of a list are read back from between parentheses. -/
theorem listed?_intercalate {values : List String} (valid : ValidList values) :
    listed? (' ' :: '(' :: ([','].intercalate (values.map String.toList) ++ [')'])) =
      some values := by
  have spaced (rest : List Char) : (' ' :: '(' :: rest).dropWhile Text.isBlank = '(' :: rest := rfl
  have unparenthesised : ([','].intercalate (values.map String.toList)).any
      (fun character => character == '(' || character == ')') = false := by
    apply List.any_eq_false.mpr
    intro character member
    cases passes_values valid character member with
    | stays unopened unclosed _ => simp [unopened, unclosed]
  have marked : (values.map String.toList).all isValue = true := by
    simpa using fun value member => (valid value member).2
  simp only [listed?, spaced, List.reverse_append, List.reverse_singleton, List.singleton_append,
    List.any_reverse, List.reverse_reverse, unparenthesised, pieces_values valid, marked]
  simp

/-- The values of a printed list are read back. -/
theorem parseSet?_among {key : List Char} {values : List String} (named : isKey key = true)
    (valid : ValidList values) :
    parseSet? (key ++ ' ' :: ("in".toList ++ ' ' :: '(' ::
      ([','].intercalate (values.map String.toList) ++ [')']))) =
        some (.among (String.ofList key) values) := by
  have starts (rest : List Char) : ∀ first ∈ ("in".toList ++ rest).head?,
      Text.isBlank first = false := by simp; decide
  rw [(parseSet?_spaced named (starts _)).1 (afterWord?_append _ _), listed?_intercalate valid,
    Option.map_some]

/-- The values of a printed negated list are read back. -/
theorem parseSet?_notAmong {key : List Char} {values : List String} (named : isKey key = true)
    (valid : ValidList values) :
    parseSet? (key ++ ' ' :: ("notin".toList ++ ' ' :: '(' ::
      ([','].intercalate (values.map String.toList) ++ [')']))) =
        some (.notAmong (String.ofList key) values) := by
  have starts (rest : List Char) : ∀ first ∈ ("notin".toList ++ rest).head?,
      Text.isBlank first = false := by simp; decide
  have other (rest : List Char) : afterWord? "in" ("notin".toList ++ rest) = none := by
    simp [afterWord?]
  rw [(parseSet?_spaced named (starts _)).2 (other _) (afterWord?_append _ _),
    listed?_intercalate valid, Option.map_some]

/-- A printed requirement is read back. -/
theorem parseRequirement?_text {requirement : Requirement} (wellFormed : requirement.WellFormed) :
    parseRequirement? requirement.text.toList = some requirement := by
  rw [parseRequirement?, Requirement.toList_text]
  cases requirement with
  | present key =>
      have named : isKey key.toList = true := wellFormed
      have noSet : parseSet? (key.toList ++ []) = none :=
        parseSet?_unspaced (isKeyCharacter_of_isKey named) (by simp) rfl
      have noEquality : parseEquality? (key.toList ++ []) = none :=
        parseEquality?_eq_none (isKeyCharacter_of_isKey named) (by simp) rfl
      rw [List.append_nil] at noSet noEquality
      simp only [noSet, noEquality, parsePresence?_key named, String.ofList_toList,
        Option.none_or]
  | absent key =>
      have named : isKey key.toList = true := wellFormed
      have ends : ∀ first ∈ ('!' :: key.toList).head?, isKeyCharacter first = false := by
        simp; decide
      have noSet : parseSet? ([] ++ '!' :: key.toList) = none :=
        parseSet?_unspaced (by simp) ends rfl
      have noEquality : parseEquality? ([] ++ '!' :: key.toList) = none :=
        parseEquality?_eq_none (by simp) ends
          (cutOperator?_absent (isKeyCharacter_of_isKey named))
      rw [List.nil_append] at noSet noEquality
      simp only [noSet, noEquality, parsePresence?_absent named, String.ofList_toList,
        Option.none_or]
  | equals key value =>
      obtain ⟨named, valid⟩ := wellFormed
      have ends : ∀ first ∈ ('=' :: value.toList).head?, isKeyCharacter first = false := by
        simp; decide
      have noSet := parseSet?_unspaced (isKeyCharacter_of_isKey named) ends rfl
      have equality := parseEquality?_append named ends
        (cutOperator?_equals (isKeyCharacter_of_isValue valid)) valid
      simp only [noSet, equality, String.ofList_toList, Option.none_or, Option.some_or,
        Bool.false_eq_true, if_false]
  | differs key value =>
      obtain ⟨named, valid⟩ := wellFormed
      have ends : ∀ first ∈ ('!' :: '=' :: value.toList).head?, isKeyCharacter first = false := by
        simp; decide
      have noSet := parseSet?_unspaced (isKeyCharacter_of_isKey named) ends rfl
      have equality := parseEquality?_append named ends rfl valid
      simp only [noSet, equality, String.ofList_toList, Option.none_or, Option.some_or, if_true]
  | among key values =>
      obtain ⟨named, valid⟩ := wellFormed
      simp only [parseSet?_among named valid, String.ofList_toList, Option.some_or]
  | notAmong key values =>
      obtain ⟨named, valid⟩ := wellFormed
      simp only [parseSet?_notAmong named valid, String.ofList_toList, Option.some_or]

/-- A word is a part. -/
theorem isPart_named {word : List Char}
    (named : ∀ character ∈ word, isKeyCharacter character = true) : IsPart false word := by
  have part : IsPart false (word ++ []) := .append (passes_named named false) .nil
  rwa [List.append_nil] at part

/-- A key, a word and printed values are a part. -/
theorem isPart_list {key word : List Char} {values : List String} (named : isKey key = true)
    (wordNamed : ∀ character ∈ word, isKeyCharacter character = true) (valid : ValidList values) :
    IsPart false (key ++ ' ' :: (word ++ ' ' :: '(' ::
      ([','].intercalate (values.map String.toList) ++ [')']))) := by
  have space : Passes false ' ' false := .stays (by decide) (by decide) (by decide)
  apply IsPart.append (passes_named (isKeyCharacter_of_isKey named) false)
  apply IsPart.cons space
  apply IsPart.append (passes_named wordNamed false)
  apply IsPart.cons space
  apply IsPart.cons .opens
  exact .append (passes_values valid) (.cons .closes .nil)

/-- A printed requirement is a part. -/
theorem isPart_text {requirement : Requirement} (wellFormed : requirement.WellFormed) :
    IsPart false requirement.text.toList := by
  have equals : Passes false '=' false := .stays (by decide) (by decide) (by decide)
  have exclamation : Passes false '!' false := .stays (by decide) (by decide) (by decide)
  have plain {key : List Char} (named : isKey key = true) :
      ∀ character ∈ key, Passes false character false :=
    passes_named (isKeyCharacter_of_isKey named) false
  rw [Requirement.toList_text]
  cases requirement with
  | present key => exact isPart_named (isKeyCharacter_of_isKey wellFormed)
  | absent key => exact .cons exclamation (isPart_named (isKeyCharacter_of_isKey wellFormed))
  | equals key value =>
      obtain ⟨named, valid⟩ := wellFormed
      exact .append (plain named) (.cons equals (isPart_named (isKeyCharacter_of_isValue valid)))
  | differs key value =>
      obtain ⟨named, valid⟩ := wellFormed
      exact .append (plain named) (.cons exclamation
        (.cons equals (isPart_named (isKeyCharacter_of_isValue valid))))
  | among key values =>
      obtain ⟨named, valid⟩ := wellFormed
      exact isPart_list named (List.all_eq_true.mp (by decide)) valid
  | notAmong key values =>
      obtain ⟨named, valid⟩ := wellFormed
      exact isPart_list named (List.all_eq_true.mp (by decide)) valid

/-- A key that a blank and a list follow has a blank neither at its start nor behind the list. -/
theorem trim_list {key word body : List Char} (named : isKey key = true) :
    Text.trim (key ++ ' ' :: (word ++ ' ' :: '(' :: (body ++ [')']))) =
      key ++ ' ' :: (word ++ ' ' :: '(' :: (body ++ [')'])) := by
  apply Text.trim_eq_self_iff.mpr
  constructor
  · intro first isFirst
    cases key with
    | nil => cases named
    | cons start rest =>
        obtain rfl := Option.some.inj isFirst
        exact isBlank_of_isKeyCharacter (isKeyCharacter_of_isKey named start (by simp))
  · have last : (key ++ ' ' :: (word ++ ' ' :: '(' :: (body ++ [')']))).getLast? = some ')' := by
      simp [List.getLast?_append, List.getLast?_cons]
    rw [last]
    rintro _ ⟨⟩
    decide

/-- A printed requirement is not empty and is trimmed. -/
theorem trim_text {requirement : Requirement} (wellFormed : requirement.WellFormed) :
    requirement.text.toList ≠ [] ∧
      Text.trim requirement.text.toList = requirement.text.toList := by
  have word {text : List Char} (each : ∀ character ∈ text, isKeyCharacter character = true) :
      ∀ character ∈ text, Text.isBlank character = false := fun character member =>
    isBlank_of_isKeyCharacter (each character member)
  rw [Requirement.toList_text]
  cases requirement with
  | present key =>
      have named : isKey key.toList = true := wellFormed
      refine ⟨?_, Text.trim_unblank (word (isKeyCharacter_of_isKey named))⟩
      intro empty
      simp only [empty] at named
      cases named
  | absent key =>
      have unblank := word (isKeyCharacter_of_isKey wellFormed)
      refine ⟨List.cons_ne_nil _ _, Text.trim_unblank ?_⟩
      exact List.forall_mem_cons.mpr ⟨by decide, unblank⟩
  | equals key value =>
      obtain ⟨named, valid⟩ := wellFormed
      refine ⟨by simp, Text.trim_unblank (List.forall_mem_append.mpr ?_)⟩
      exact ⟨word (isKeyCharacter_of_isKey named),
        List.forall_mem_cons.mpr ⟨by decide, word (isKeyCharacter_of_isValue valid)⟩⟩
  | differs key value =>
      obtain ⟨named, valid⟩ := wellFormed
      refine ⟨by simp, Text.trim_unblank (List.forall_mem_append.mpr ?_)⟩
      exact ⟨word (isKeyCharacter_of_isKey named), List.forall_mem_cons.mpr ⟨by decide,
        List.forall_mem_cons.mpr ⟨by decide, word (isKeyCharacter_of_isValue valid)⟩⟩⟩
  | among key values => exact ⟨by simp, trim_list wellFormed.1⟩
  | notAmong key values => exact ⟨by simp, trim_list wellFormed.1⟩

/-- The parts of printed requirements are read back. -/
theorem parseParts_text {requirements : List Requirement}
    (wellFormed : ∀ requirement ∈ requirements, requirement.WellFormed) :
    parseParts (requirements.map fun requirement => requirement.text.toList) =
      .ok requirements := by
  have trimmed : (requirements.map fun requirement => requirement.text.toList).map Text.trim =
      requirements.map fun requirement => requirement.text.toList := by
    rw [List.map_map]
    apply List.map_congr_left
    intro requirement member
    exact (trim_text (wellFormed requirement member)).2
  have filled : (requirements.map fun requirement => requirement.text.toList).filter
      (!·.isEmpty) = requirements.map fun requirement => requirement.text.toList := by
    apply List.filter_eq_self.mpr
    intro text isText
    obtain ⟨requirement, member, rfl⟩ := List.mem_map.mp isText
    simpa using (trim_text (wellFormed requirement member)).1
  rw [parseParts_eq_ok_iff, trimmed, filled, List.forall₂_map_left_iff, List.forall₂_same]
  intro requirement member
  exact parseRequirement?_text (wellFormed requirement member)

/-- A printed condition is split into its requirements; without requirements one empty part is
left. -/
theorem splitParts_text {condition : Condition} (wellFormed : condition.WellFormed) :
    ∃ parts, splitParts false condition.text.toList = .ok parts ∧
      parseParts parts = .ok condition.requirements := by
  by_cases none : condition.requirements = []
  · refine ⟨[[]], ?_, ?_⟩
    · rw [Condition.text, none]
      rfl
    · rw [none]
      rfl
  · let parts := condition.requirements.map fun requirement => requirement.text.toList
    have joined : condition.text.toList = [','].intercalate parts := by
      simp [Condition.text, Text.join, String.toList_intercalate, parts, Function.comp_def]
    refine ⟨parts, splitParts_eq_ok_iff.mpr ⟨by simpa [parts] using none, ?_, joined⟩,
      parseParts_text wellFormed⟩
    intro part isPart
    obtain ⟨requirement, member, rfl⟩ := List.mem_map.mp isPart
    exact isPart_text (wellFormed requirement member)

/-- A condition can be read from some text exactly when its keys and values can be spelled, and
then it is read from its printed text. -/
theorem parseCondition_text (condition : Condition) :
    [condition.WellFormed, parseCondition condition.text = .ok condition,
      ∃ text, parseCondition text = .ok condition].TFAE := by
  tfae_have 1 → 2 := by
    intro wellFormed
    exact parseCondition_eq_ok_iff.mpr (splitParts_text wellFormed)
  tfae_have 2 → 3 := fun printed => ⟨_, printed⟩
  tfae_have 3 → 1 := by
    rintro ⟨text, read⟩ requirement member
    obtain ⟨parts, -, partsRead⟩ := parseCondition_eq_ok_iff.mp read
    exact wellFormed_of_parseParts partsRead requirement member
  tfae_finish

/-- Keys may be the words of a list, values may be empty, and lists may have no values. -/
example :
    let condition : Condition := ⟨[.among "in" ["a", "b"], .absent "notin", .equals "x" "",
      .differs "y" "z", .notAmong "in" [], .present "app.io/name"]⟩
    condition.text = "in in (a,b),!notin,x=,y!=z,in notin (),app.io/name" ∧
      parseCondition condition.text = .ok condition := by
  decide +kernel

end Graft.Label
