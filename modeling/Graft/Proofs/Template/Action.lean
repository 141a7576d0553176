/-
This file states the grammar of actions: which bodies ask for which position, apart from how they
are read.
-/

import Graft.Proofs.Text
import Graft.Template

namespace Graft.Template

/-- The blanks between two words: there is at least one. -/
def IsGap (blanks : List Char) : Prop :=
  blanks ≠ [] ∧ ∀ character ∈ blanks, Text.isBlank character = true

/-- What may stand before the digits of an action. -/
inductive Words : List Char → Prop where
  | none : Words []
  | indexValues {first second : List Char} (firstGap : IsGap first) (secondGap : IsGap second) :
      Words ("index".toList ++ (first ++ (".Values".toList ++ second)))

/-- An action asks for a position by its decimal digits. Words may stand before them, and blanks
around both. -/
inductive Asks : List Char → Nat → Prop where
  | digits {left words digits right : List Char}
      (leftBlank : ∀ character ∈ left, Text.isBlank character = true) (spelled : Words words)
      (given : digits ≠ []) (decimal : ∀ digit ∈ digits, digit.isDigit = true)
      (small : Nat.ofDigitChars 10 digits 0 < Text.wordLimit)
      (rightBlank : ∀ character ∈ right, Text.isBlank character = true) :
      Asks (left ++ (words ++ digits) ++ right) (Nat.ofDigitChars 10 digits 0)

/-- A decimal digit is no blank. -/
theorem isBlank_of_isDigit {character : Char} (digit : character.isDigit = true) :
    Text.isBlank character = false := by
  have bounds : '0' ≤ character ∧ character ≤ '9' := by
    simpa [Text.isDigit] using Text.isDigit_iff.mpr digit
  have above : 48 ≤ character.toNat := bounds.1
  have below : character.toNat ≤ 57 := bounds.2
  simp only [Text.isBlank, Bool.or_eq_false_iff, Bool.and_eq_false_iff, decide_eq_false_iff_not,
    beq_eq_false_iff_ne]
  omega

/-- A run of blanks that starts a text is a gap. -/
theorem isGap_takeWhile {text : List Char} (starts : text.head?.any Text.isBlank = true) :
    IsGap (text.takeWhile Text.isBlank) := by
  refine ⟨?_, fun character member => List.mem_takeWhile_imp member⟩
  cases text with
  | nil => cases starts
  | cons first rest => simpa using starts

/-- Either the words stand in front and go, or the text is kept. -/
theorem afterWords_split (text : List Char) :
    ∃ words, Words words ∧ text = words ++ afterWords text := by
  simp only [afterWords]
  split
  · rename_i worded
    simp only [Bool.and_eq_true, List.isPrefixOf_iff_prefix] at worded
    obtain ⟨⟨⟨indexed, firstBlank⟩, valued⟩, secondBlank⟩ := worded
    have name := List.prefix_iff_eq_append.mp indexed
    have others := List.prefix_iff_eq_append.mp valued
    refine ⟨_, .indexValues (isGap_takeWhile firstBlank) (isGap_takeWhile secondBlank), ?_⟩
    simp only [List.append_assoc]
    rw [List.takeWhile_append_dropWhile, others, List.takeWhile_append_dropWhile, name]
  · exact ⟨[], .none, rfl⟩

/-- A gap starts with a blank, whatever follows it. -/
theorem IsGap.starts {gap : List Char} (isGap : IsGap gap) (text : List Char) :
    (gap ++ text).head?.any Text.isBlank = true := by
  obtain ⟨given, blank⟩ := isGap
  cases gap with
  | nil => exact absurd rfl given
  | cons first rest => simpa using blank first (by simp)

/-- The words go, with the blanks after them. -/
theorem afterWords_indexValues {first second text : List Char} (firstGap : IsGap first)
    (secondGap : IsGap second) (starts : ∀ character ∈ text.head?, Text.isBlank character = false) :
    afterWords ("index".toList ++ (first ++ (".Values".toList ++ (second ++ text)))) = text := by
  have name : (first ++ (".Values".toList ++ (second ++ text))).dropWhile Text.isBlank =
      ".Values".toList ++ (second ++ text) := by
    refine Text.dropWhile_blanks firstGap.2 fun character member => ?_
    obtain rfl : '.' = character := Option.some.inj member
    decide
  have last : (second ++ text).dropWhile Text.isBlank = text :=
    Text.dropWhile_blanks secondGap.2 starts
  have worded (word rest : List Char) : word.isPrefixOf (word ++ rest) = true :=
    List.isPrefixOf_iff_prefix.mpr (List.prefix_append word rest)
  simp only [afterWords, List.drop_left, name, last, worded, firstGap.starts, secondGap.starts,
    Bool.and_self, if_true]

/-- A text that does not start with the first word is kept. -/
theorem afterWords_unworded {text : List Char} (unworded : ¬ "index".toList <+: text) :
    afterWords text = text := by
  have otherwise : "index".toList.isPrefixOf text = false := by
    rw [← Bool.not_eq_true, List.isPrefixOf_iff_prefix]
    exact unworded
  simp only [afterWords, otherwise, Bool.false_and, Bool.false_eq_true, if_false]

/-- The first digit of a run is no blank. -/
theorem starts_digits {digits : List Char} (decimal : ∀ digit ∈ digits, digit.isDigit = true) :
    ∀ character ∈ digits.head?, Text.isBlank character = false := by
  intro character member
  exact isBlank_of_isDigit (decimal character (List.mem_of_mem_head? member))

/-- Before digits the words go. -/
theorem afterWords_append {words digits : List Char} (spelled : Words words)
    (decimal : ∀ digit ∈ digits, digit.isDigit = true) : afterWords (words ++ digits) = digits := by
  cases spelled with
  | none =>
      refine afterWords_unworded ?_
      rintro ⟨rest, split⟩
      have letter := decimal 'i' (by rw [List.nil_append] at split; simp [← split])
      exact absurd letter (by decide)
  | indexValues firstGap secondGap =>
      simp only [List.append_assoc]
      exact afterWords_indexValues firstGap secondGap (starts_digits decimal)

/-- Words and digits have no blank at their ends. -/
theorem trim_asked {left words digits right : List Char}
    (leftBlank : ∀ character ∈ left, Text.isBlank character = true) (spelled : Words words)
    (given : digits ≠ []) (decimal : ∀ digit ∈ digits, digit.isDigit = true)
    (rightBlank : ∀ character ∈ right, Text.isBlank character = true) :
    Text.trim (left ++ (words ++ digits) ++ right) = words ++ digits := by
  refine Text.trim_append leftBlank rightBlank ?_ ?_
  · cases spelled with
    | none => exact starts_digits decimal
    | indexValues _ _ =>
        intro character member
        obtain rfl : 'i' = character := Option.some.inj member
        decide
  · intro character member
    rw [List.getLast?_append, List.getLast?_eq_some_getLast given, Option.some_or,
      ← List.getLast?_eq_some_getLast given] at member
    exact isBlank_of_isDigit (decimal character (List.mem_of_mem_getLast? member))

/-- The position of a body is the one that it asks for. -/
theorem position?_eq_some_iff {body : List Char} {position : Nat} :
    position? body = some position ↔ Asks body position := by
  rw [position?]
  constructor
  · intro found
    obtain ⟨given, decimal, rfl, small⟩ := Text.position?_eq_some_iff.mp found
    obtain ⟨left, right, whole, leftBlank, rightBlank⟩ := Text.trim_split body
    obtain ⟨words, spelled, worded⟩ := afterWords_split (Text.trim body)
    have asks := Asks.digits leftBlank spelled given decimal small rightBlank
    rwa [← worded, ← whole] at asks
  · rintro ⟨leftBlank, spelled, given, decimal, small, rightBlank⟩
    rw [trim_asked leftBlank spelled given decimal rightBlank, afterWords_append spelled decimal]
    exact Text.position?_eq_some_iff.mpr ⟨given, decimal, rfl, small⟩

/-- The words have no brace. -/
theorem Words.unclosed {words : List Char} (spelled : Words words) : '\x7d' ∉ words := by
  cases spelled with
  | none => simp
  | indexValues firstGap secondGap =>
      have blank : Text.isBlank '\x7d' ≠ true := by decide
      simp only [List.mem_append, not_or]
      exact ⟨by decide, mt (firstGap.2 _) blank, by decide, mt (secondGap.2 _) blank⟩

/-- A body that asks for a position does not close the action. -/
theorem Asks.unclosed {body : List Char} {position : Nat} (asks : Asks body position) :
    '\x7d' ∉ body := by
  obtain ⟨leftBlank, spelled, -, decimal, -, rightBlank⟩ := asks
  have blank : Text.isBlank '\x7d' ≠ true := by decide
  have digit : '\x7d'.isDigit ≠ true := by decide
  simp only [List.mem_append, not_or]
  exact ⟨⟨mt (leftBlank _) blank, spelled.unclosed, mt (decimal _) digit⟩, mt (rightBlank _) blank⟩

end Graft.Template
