/-
This file states where a text is cut at a mark, which blanks are trimmed, and which texts are a
position.
-/

import Graft.Text
import Mathlib.Data.List.TakeWhile

namespace Graft.Text

/-- A cut gives the text up to the first mark and the text after that mark. -/
theorem cut?_eq_some_iff {mark : Char} {text before after : List Char} :
    cut? mark text = some (before, after) ↔ text = before ++ mark :: after ∧ mark ∉ before := by
  induction text generalizing before with
  | nil => simp [cut?]
  | cons character rest inductionHypothesis =>
      rw [cut?]
      by_cases same : character = mark
      · rw [if_pos same]
        cases before with
        | nil => simp [same, eq_comm]
        | cons first others =>
            simp only [Option.some.injEq, Prod.mk.injEq, List.nil_eq, reduceCtorEq, false_and,
              List.cons_append, List.cons.injEq, false_iff, not_and]
            rintro ⟨rfl, -⟩ absent
            exact absent (by simp [same])
      · rw [if_neg same, Option.map_eq_some_iff]
        cases before with
        | nil => simp [same]
        | cons first others =>
            simp only [Prod.exists, Prod.mk.injEq, List.cons.injEq, List.cons_append,
              List.mem_cons, not_or]
            constructor
            · rintro ⟨_, _, cut, ⟨rfl, rfl⟩, rfl⟩
              obtain ⟨split, absent⟩ := inductionHypothesis.mp cut
              exact ⟨⟨rfl, split⟩, Ne.symm same, absent⟩
            · rintro ⟨⟨rfl, split⟩, _, absent⟩
              exact ⟨others, after, inductionHypothesis.mpr ⟨split, absent⟩, ⟨rfl, rfl⟩, rfl⟩

/-- The last piece of a text is the text itself if it has no mark, and what follows the last mark
otherwise. -/
theorem pieces_last (mark : Char) (text : List Char) :
    ∃ earlier piece, pieces mark text = earlier ++ [piece] ∧ mark ∉ piece ∧
      (earlier = [] ∧ text = piece ∨ earlier ≠ [] ∧ ∃ front, text = front ++ mark :: piece) := by
  induction text with
  | nil => exact ⟨[], [], rfl, List.not_mem_nil, .inl ⟨rfl, rfl⟩⟩
  | cons character rest inductionHypothesis =>
      obtain ⟨earlier, piece, split, absent, place⟩ := inductionHypothesis
      rw [pieces, split]
      by_cases same : character = mark
      · refine ⟨[] :: earlier, piece, by rw [if_pos same]; rfl, absent, .inr ⟨nofun, ?_⟩⟩
        rw [same]
        obtain ⟨-, rfl⟩ | ⟨-, front, rfl⟩ := place
        · exact ⟨[], rfl⟩
        · exact ⟨mark :: front, rfl⟩
      · rw [if_neg same]
        obtain ⟨rfl, rfl⟩ | ⟨given, front, rfl⟩ := place
        · refine ⟨[], character :: rest, rfl, ?_, .inl ⟨rfl, rfl⟩⟩
          exact List.not_mem_cons_of_ne_of_not_mem (Ne.symm same) absent
        · obtain ⟨first, others, rfl⟩ := List.exists_cons_of_ne_nil given
          exact ⟨(character :: first) :: others, piece, rfl, absent,
            .inr ⟨nofun, character :: front, rfl⟩⟩

/-- No piece has the mark. -/
theorem unmarked_of_mem_pieces {mark : Char} {text piece : List Char}
    (member : piece ∈ pieces mark text) : mark ∉ piece := by
  induction text generalizing piece with
  | nil =>
      rw [List.mem_singleton.mp member]
      exact List.not_mem_nil
  | cons character rest inductionHypothesis =>
      rw [pieces] at member
      split at member
      · rcases List.mem_cons.mp member with first | later
        · rw [first]
          exact List.not_mem_nil
        · exact inductionHypothesis later
      · rename_i other
        split at member
        · rw [List.mem_singleton.mp member]
          exact List.not_mem_cons_of_ne_of_not_mem (Ne.symm other) List.not_mem_nil
        · rename_i first others split
          rw [split] at inductionHypothesis
          rcases List.mem_cons.mp member with same | later
          · rw [same]
            exact List.not_mem_cons_of_ne_of_not_mem (Ne.symm other)
              (inductionHypothesis List.mem_cons_self)
          · exact inductionHypothesis (List.mem_cons_of_mem _ later)

/-- A text whose first piece is empty is empty or starts with the mark. -/
theorem head?_pieces_eq_nil_iff {mark : Char} {text : List Char} :
    (pieces mark text).head? = some [] ↔ text = [] ∨ text.head? = some mark := by
  cases text with
  | nil => simp [pieces]
  | cons character rest =>
      rw [pieces]
      split
      · rename_i same
        simp [same]
      · rename_i other
        split <;> simp [other]

/-- A text without the mark in front of a mark is the first piece. -/
theorem pieces_append {mark : Char} {front : List Char} (unmarked : mark ∉ front)
    (rest : List Char) : pieces mark (front ++ mark :: rest) = front :: pieces mark rest := by
  induction front with
  | nil => rw [List.nil_append, pieces, if_pos rfl]
  | cons first front inductionHypothesis =>
      obtain ⟨other, unmarked⟩ : mark ≠ first ∧ mark ∉ front := by simpa using unmarked
      rw [List.cons_append, pieces, if_neg (Ne.symm other), inductionHypothesis unmarked]

/-- A text without the mark is its only piece. -/
theorem pieces_unmarked {mark : Char} {text : List Char} (unmarked : mark ∉ text) :
    pieces mark text = [text] := by
  induction text with
  | nil => rfl
  | cons first text inductionHypothesis =>
      obtain ⟨other, unmarked⟩ : mark ≠ first ∧ mark ∉ text := by simpa using unmarked
      rw [pieces, if_neg (Ne.symm other), inductionHypothesis unmarked]

/-- Texts without the mark are the pieces of the text that joins them with it. -/
theorem pieces_intercalate {mark : Char} {texts : List (List Char)} (given : texts ≠ [])
    (unmarked : ∀ text ∈ texts, mark ∉ text) :
    pieces mark ([mark].intercalate texts) = texts := by
  induction texts with
  | nil => exact absurd rfl given
  | cons text rest inductionHypothesis =>
      obtain ⟨textUnmarked, restUnmarked⟩ := List.forall_mem_cons.mp unmarked
      cases rest with
      | nil =>
          rw [List.intercalate_singleton]
          exact pieces_unmarked textUnmarked
      | cons next rest =>
          rw [List.intercalate_cons_cons, List.append_assoc, List.singleton_append,
            pieces_append textUnmarked, inductionHypothesis (List.cons_ne_nil _ _) restUnmarked]

/-- The characters of joined texts are marks and those of the texts. -/
theorem mem_intercalate {mark character : Char} {texts : List (List Char)}
    (member : character ∈ [mark].intercalate texts) :
    character = mark ∨ ∃ text ∈ texts, character ∈ text := by
  induction texts with
  | nil => cases member
  | cons text rest inductionHypothesis =>
      cases rest with
      | nil => exact .inr ⟨text, by simp, by simpa using member⟩
      | cons next rest =>
          simp only [List.intercalate_cons_cons, List.append_assoc, List.mem_append,
            List.mem_singleton] at member
          rcases member with inText | marked | later
          · exact .inr ⟨text, by simp, inText⟩
          · exact .inl marked
          · rcases inductionHypothesis later with marked | ⟨other, isOther, inOther⟩
            · exact .inl marked
            · exact .inr ⟨other, List.mem_cons_of_mem _ isOther, inOther⟩

/-- A digit is one of the ten decimal digits. -/
theorem isDigit_iff {character : Char} : isDigit character = true ↔ character.isDigit = true := by
  simp only [isDigit, Char.isDigit, Bool.and_eq_true, decide_eq_true_eq, Char.le_def, ge_iff_le]

/-- A decimal digit has the value that its place after the zero gives. -/
theorem digit?_of_isDigit {character : Char} (digit : character.isDigit = true) :
    digit? character = some (character.toNat - '0'.toNat) ∧ character.toNat - '0'.toNat < 10 := by
  have bounds : '0' ≤ character ∧ character ≤ '9' := by
    simpa [isDigit] using isDigit_iff.mpr digit
  constructor
  · simp [digit?, bounds]
  · have below : character.toNat ≤ '9'.toNat := bounds.2
    have nine : '9'.toNat = '0'.toNat + 9 := rfl
    omega

/-- Digits that follow a value continue it in decimal. -/
theorem foldlM_digits {digits : List Char} (decimal : ∀ digit ∈ digits, digit.isDigit = true)
    (value : Nat) :
    digits.foldlM (fun value character => (digit? character).bind fun digit =>
      if digit < 10 then some (value * 10 + digit) else none) value =
        some (Nat.ofDigitChars 10 digits value) := by
  induction digits generalizing value with
  | nil => rfl
  | cons first rest inductionHypothesis =>
      obtain ⟨read, small⟩ := digit?_of_isDigit (decimal first (by simp))
      rw [List.foldlM_cons, read, Option.bind_some, if_pos small, Nat.ofDigitChars_cons,
        Nat.mul_comm 10 value]
      exact inductionHypothesis (fun digit member => decimal digit (List.mem_cons_of_mem _ member)) _

/-- A run of decimal digits is the position of its value, if that is below the limit. -/
theorem position?_of_digits {digits : List Char} (given : digits ≠ [])
    (decimal : ∀ digit ∈ digits, digit.isDigit = true) :
    position? digits =
      if Nat.ofDigitChars 10 digits 0 < wordLimit then some (Nat.ofDigitChars 10 digits 0)
      else none := by
  have nonempty : digits.isEmpty = false := by simpa using given
  rw [position?, natural?, nonempty, if_neg Bool.false_ne_true, foldlM_digits decimal]
  by_cases small : Nat.ofDigitChars 10 digits 0 < wordLimit <;> simp [Option.filter, small]

/-- A run of characters with a decimal value has decimal digits only. -/
theorem isDigit_of_foldlM {characters : List Char} {start value : Nat}
    (run : characters.foldlM (fun value character => (digit? character).bind fun digit =>
      if digit < 10 then some (value * 10 + digit) else none) start = some value) :
    ∀ character ∈ characters, character.isDigit = true := by
  induction characters generalizing start with
  | nil => simp
  | cons first rest inductionHypothesis =>
      rw [List.foldlM_cons, Option.bind_eq_bind, Option.bind_eq_some_iff] at run
      obtain ⟨middle, read, later⟩ := run
      obtain ⟨digit, found, kept⟩ := Option.bind_eq_some_iff.mp read
      have small : digit < 10 := by
        split at kept
        · assumption
        · cases kept
      refine List.forall_mem_cons.mpr ⟨isDigit_iff.mp ?_, inductionHypothesis later⟩
      -- The letters stand for ten and more.
      rw [digit?] at found
      split at found
      · rename_i decimal
        simpa [isDigit] using decimal
      · split at found
        · cases found
          omega
        · split at found
          · cases found
            omega
          · cases found

/-- The positions are the runs of decimal digits with a value below the limit. -/
theorem position?_eq_some_iff {digits : List Char} {position : Nat} :
    position? digits = some position ↔
      digits ≠ [] ∧ (∀ digit ∈ digits, digit.isDigit = true) ∧
        Nat.ofDigitChars 10 digits 0 = position ∧ position < wordLimit := by
  constructor
  · intro found
    have read : natural? 10 digits = some position := (Option.filter_eq_some_iff.mp found).1
    rw [natural?] at read
    split at read
    · cases read
    · rename_i given
      have given : digits ≠ [] := by simpa using given
      have decimal := isDigit_of_foldlM read
      rw [position?_of_digits given decimal] at found
      split at found
      · rename_i small
        have same := Option.some.inj found
        exact ⟨given, decimal, same, same ▸ small⟩
      · cases found
  · rintro ⟨given, decimal, rfl, small⟩
    rw [position?_of_digits given decimal, if_pos small]

/-- Blanks in front of a text that starts without one go. -/
theorem dropWhile_blanks {blanks text : List Char}
    (blank : ∀ character ∈ blanks, isBlank character = true)
    (starts : ∀ first ∈ text.head?, isBlank first = false) :
    (blanks ++ text).dropWhile isBlank = text := by
  rw [List.dropWhile_append_of_pos blank]
  cases text with
  | nil => rfl
  | cons first rest => rw [List.dropWhile_cons_of_neg (by simp [starts first rfl])]

/-- The blanks around a text go, if the text has no blank at its ends. -/
theorem trim_append {left core right : List Char}
    (leftBlank : ∀ character ∈ left, isBlank character = true)
    (rightBlank : ∀ character ∈ right, isBlank character = true)
    (starts : ∀ first ∈ core.head?, isBlank first = false)
    (ends : ∀ last ∈ core.getLast?, isBlank last = false) :
    trim (left ++ core ++ right) = core := by
  have front : (left ++ core ++ right).dropWhile isBlank = (core ++ right).dropWhile isBlank := by
    rw [List.append_assoc, List.dropWhile_append_of_pos leftBlank]
  rw [trim, front]
  cases core with
  | nil =>
      have gone : right.dropWhile isBlank = [] := List.dropWhile_eq_nil_iff.mpr rightBlank
      rw [List.nil_append, gone]
      rfl
  | cons first rest =>
      have kept : isBlank first = false := starts first rfl
      rw [List.cons_append, List.dropWhile_cons_of_neg (by simp [kept]), ← List.cons_append,
        dropTrailing, List.reverse_append, dropWhile_blanks (by simpa using rightBlank)
          (by rwa [List.head?_reverse]), List.reverse_reverse]

/-- A text that is trimmed has no blank at its ends. -/
theorem ends_trim (text : List Char) :
    (∀ first ∈ (trim text).head?, isBlank first = false) ∧
      ∀ last ∈ (trim text).getLast?, isBlank last = false := by
  have dropped (characters : List Char) :
      ∀ first ∈ (characters.dropWhile isBlank).head?, isBlank first = false := by
    intro first isFirst
    have starts := List.head?_dropWhile_not isBlank characters
    rwa [Option.mem_def.mp isFirst] at starts
  constructor
  · intro first isFirst
    obtain ⟨back, split⟩ : trim text <+: text.dropWhile isBlank :=
      List.reverse_suffix.mp (by simpa [trim, dropTrailing] using List.dropWhile_suffix isBlank)
    apply dropped text
    rw [← split, List.head?_append, Option.mem_def.mp isFirst]
    rfl
  · intro last isLast
    rw [trim, dropTrailing, List.getLast?_reverse] at isLast
    exact dropped _ last isLast

/-- A text is trimmed exactly when it has no blank at its ends. -/
theorem trim_eq_self_iff {text : List Char} :
    trim text = text ↔ (∀ first ∈ text.head?, isBlank first = false) ∧
      ∀ last ∈ text.getLast?, isBlank last = false := by
  constructor
  · intro trimmed
    have ends := ends_trim text
    rwa [trimmed] at ends
  · rintro ⟨starts, ends⟩
    have trimmed : trim ([] ++ text ++ []) = text := trim_append (by simp) (by simp) starts ends
    rwa [List.nil_append, List.append_nil] at trimmed

/-- A text without blanks has nothing to trim. -/
theorem trim_unblank {text : List Char}
    (unblank : ∀ character ∈ text, isBlank character = false) : trim text = text := by
  apply trim_eq_self_iff.mpr
  constructor
  · intro first isFirst
    exact unblank first (List.mem_of_mem_head? isFirst)
  · intro last isLast
    exact unblank last (List.mem_of_getLast? isLast)

/-- A text is what is left of it between blanks. -/
theorem trim_split (text : List Char) :
    ∃ left right, text = left ++ trim text ++ right ∧
      (∀ character ∈ left, isBlank character = true) ∧
        ∀ character ∈ right, isBlank character = true := by
  let front := text.takeWhile isBlank
  let rest := text.dropWhile isBlank
  let back := (rest.reverse.takeWhile isBlank).reverse
  have splitRest : rest = trim text ++ back := by
    have whole := congrArg List.reverse
      (List.takeWhile_append_dropWhile (p := isBlank) (l := rest.reverse))
    rw [List.reverse_append, List.reverse_reverse] at whole
    exact whole.symm
  refine ⟨front, back, ?_, fun character member => List.mem_takeWhile_imp member,
    fun character member => List.mem_takeWhile_imp (List.mem_reverse.mp member)⟩
  rw [List.append_assoc, ← splitRest]
  exact List.takeWhile_append_dropWhile.symm

/-- Only blanks are left out of a text of which nothing is left. -/
theorem isBlank_of_trim_eq_nil {text : List Char} (empty : trim text = []) :
    ∀ character ∈ text, isBlank character = true := by
  obtain ⟨left, right, split, leftBlank, rightBlank⟩ := trim_split text
  rw [split, empty, List.append_nil]
  exact List.forall_mem_append.mpr ⟨leftBlank, rightBlank⟩

end Graft.Text
