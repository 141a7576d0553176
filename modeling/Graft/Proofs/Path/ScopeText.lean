/-
This file states which texts end in a scope: exactly those that are a base and a pattern with the
percent signs of the scope, and there is one way at most to read a text so.
-/

import Graft.Path.Parse
import Graft.Proofs.Text

namespace Graft.Path

/-- A base with a scope after it. -/
def withScope (base pattern : String) : String := base ++ "%" ++ pattern ++ "%"

/-- A pattern can be the scope of a base when both have a character and no blank, and no percent
sign stands within the pattern. -/
structure Scopes (base pattern : String) : Prop where
  base_given : base ≠ ""
  pattern_given : pattern ≠ ""
  base_unblank : ∀ character ∈ base.toList, Text.isBlank character = false
  pattern_unblank : ∀ character ∈ pattern.toList, Text.isBlank character = false
  unmarked : '%' ∉ pattern.toList

variable {text base pattern : String}

/-- Read from its end, a base with a scope has a percent sign, the pattern, another percent sign
and the base. -/
theorem reverse_eq_iff_withScope :
    text.toList.reverse = '%' :: (pattern.toList.reverse ++ '%' :: base.toList.reverse) ↔
      text = withScope base pattern := by
  rw [List.reverse_eq_iff, ← String.toList_inj]
  simp [withScope]

/-- What is split off is the scope of what is left. -/
theorem scopes_of_splitScope (cut : splitScope text = (base, some pattern)) :
    text = withScope base pattern ∧ Scopes base pattern := by
  rw [splitScope] at cut
  split at cut
  · rename_i body reversed
    split at cut
    · rename_i patternBack baseBack found
      obtain ⟨rfl, unmarked⟩ := Text.cut?_eq_some_iff.mp found
      split at cut
      · cases cut
      · rename_i allowed
        cases cut
        simp only [Bool.or_eq_true, not_or, List.isEmpty_iff, Bool.not_eq_true,
          List.any_eq_false] at allowed
        obtain ⟨⟨⟨patternGiven, baseGiven⟩, patternUnblank⟩, baseUnblank⟩ := allowed
        refine ⟨reverse_eq_iff_withScope.mp (by simpa using reversed), ?_, ?_, ?_, ?_, ?_⟩
        · simpa using baseGiven
        · simpa using patternGiven
        · simpa using baseUnblank
        · simpa using patternUnblank
        · simpa using unmarked
    · cases cut
  · cases cut

/-- A scope that is put after a base is split off. -/
theorem splitScope_withScope (scopes : Scopes base pattern) :
    splitScope (withScope base pattern) = (base, some pattern) := by
  have reversed : (withScope base pattern).toList.reverse =
      '%' :: (pattern.toList.reverse ++ '%' :: base.toList.reverse) :=
    reverse_eq_iff_withScope.mpr rfl
  have found : Text.cut? '%' (pattern.toList.reverse ++ '%' :: base.toList.reverse) =
      some (pattern.toList.reverse, base.toList.reverse) :=
    Text.cut?_eq_some_iff.mpr ⟨rfl, by simpa using scopes.unmarked⟩
  have allowed : ¬ (pattern.toList.reverse.isEmpty || base.toList.reverse.isEmpty ||
      pattern.toList.reverse.any Text.isBlank || base.toList.reverse.any Text.isBlank) = true := by
    simpa [scopes.base_given, scopes.pattern_given] using
      And.intro scopes.pattern_unblank scopes.base_unblank
  rw [splitScope, reversed]
  simp only [found]
  rw [if_neg allowed]
  simp

/-- A text is left as it is unless a scope is split off. -/
theorem splitScope_whole_or_some (text : String) :
    splitScope text = (text, none) ∨ ∃ base pattern, splitScope text = (base, some pattern) := by
  rw [splitScope]
  split
  · split
    · split
      · exact .inl rfl
      · exact .inr ⟨_, _, rfl⟩
    · exact .inl rfl
  · exact .inl rfl

/-- A base and a pattern are what a text is split into exactly when the text is that base with that
scope. There is one way at most to read a text so, and a text that cannot be read so is left as it
is. So a scope that was put after a base is split off again, even if the base has percent signs or
ends in a scope of its own. -/
theorem splitScope_exact (text : String) :
    (∀ base pattern, splitScope text = (base, some pattern) ↔
      text = withScope base pattern ∧ Scopes base pattern) ∧
    (∀ base pattern other scope, text = withScope base pattern → Scopes base pattern →
      text = withScope other scope → Scopes other scope → other = base ∧ scope = pattern) ∧
    (splitScope text = (text, none) ↔
      ∀ base pattern, text = withScope base pattern → ¬ Scopes base pattern) ∧
    ∀ base pattern, Scopes base pattern →
      splitScope (withScope base pattern) = (base, some pattern) := by
  have exactly (base pattern : String) : splitScope text = (base, some pattern) ↔
      text = withScope base pattern ∧ Scopes base pattern := by
    refine ⟨scopes_of_splitScope, ?_⟩
    rintro ⟨rfl, scopes⟩
    exact splitScope_withScope scopes
  refine ⟨exactly, ?_, ⟨?_, ?_⟩, fun _ _ => splitScope_withScope⟩
  · intro base pattern other scope same scopes otherSame otherScopes
    have first := (exactly base pattern).mpr ⟨same, scopes⟩
    have second := (exactly other scope).mpr ⟨otherSame, otherScopes⟩
    obtain ⟨sameBase, sameScope⟩ := Prod.mk.inj (second.symm.trans first)
    exact ⟨sameBase, Option.some.inj sameScope⟩
  · intro whole base pattern same scopes
    cases whole.symm.trans ((exactly base pattern).mpr ⟨same, scopes⟩)
  · intro unscoped
    rcases splitScope_whole_or_some text with whole | ⟨base, pattern, cut⟩
    · exact whole
    · obtain ⟨same, scopes⟩ := scopes_of_splitScope cut
      exact absurd scopes (unscoped base pattern same)

/-- A base that ends in a scope of its own keeps it, and a text with a blank is left as it is. -/
theorem splitScope_exact_twice :
    let base := "image%tag%"
    Scopes base "größe" ∧ splitScope (withScope base "größe") = (base, some "größe") ∧
      (∀ other scope, withScope base "größe" = withScope other scope → Scopes other scope →
        other = base ∧ scope = "größe") ∧
      ∀ other scope, "image %tag%" = withScope other scope → ¬ Scopes other scope := by
  intro base
  have cut : splitScope (withScope base "größe") = (base, some "größe") := by decide +kernel
  have whole : splitScope "image %tag%" = ("image %tag%", none) := by decide +kernel
  obtain ⟨exactly, unique, -, undone⟩ := splitScope_exact (withScope base "größe")
  obtain ⟨-, -, unscoped, -⟩ := splitScope_exact "image %tag%"
  obtain ⟨same, scopes⟩ := (exactly base "größe").mp cut
  exact ⟨scopes, undone base "größe" scopes, fun other scope => unique _ _ other scope same scopes,
    unscoped.mp whole⟩

end Graft.Path
