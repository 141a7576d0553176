/-
This file decides whether two values are equal, so that concrete documents can be evaluated.
-/

import Graft.Yaml.Value

namespace Graft.Yaml

namespace Value

mutual

/-- Two values are equal when their shapes, tags and scalars are. -/
def equal : Value → Value → Bool
  | .null, .null => true
  | .boolean first, .boolean second => first == second
  | .number first, .number second => first == second
  | .text first, .text second => first == second
  | .sequence first, .sequence second => equalItems first second
  | .mapping first, .mapping second => equalEntries first second
  | .tagged firstTag first, .tagged secondTag second => firstTag == secondTag && first.equal second
  | _, _ => false

def equalItems : List Value → List Value → Bool
  | [], [] => true
  | first :: firsts, second :: seconds => first.equal second && equalItems firsts seconds
  | _, _ => false

def equalEntries : List (Value × Value) → List (Value × Value) → Bool
  | [], [] => true
  | (key, first) :: firsts, (name, second) :: seconds =>
      key.equal name && first.equal second && equalEntries firsts seconds
  | _, _ => false

end

mutual

/-- The comparison decides equality of values. -/
theorem equal_iff (first second : Value) : first.equal second = true ↔ first = second := by
  match first, second with
  | .sequence first, .sequence second => simp [equal, equalItems_iff first second]
  | .mapping first, .mapping second => simp [equal, equalEntries_iff first second]
  | .tagged _ first, .tagged _ second => simp [equal, equal_iff first second]
  | .null, second | .boolean _, second | .number _, second | .text _, second =>
      cases second <;> simp [equal]
  | .sequence _, .null | .sequence _, .boolean _ | .sequence _, .number _ | .sequence _, .text _
  | .sequence _, .mapping _ | .sequence _, .tagged _ _ => simp [equal]
  | .mapping _, .null | .mapping _, .boolean _ | .mapping _, .number _ | .mapping _, .text _
  | .mapping _, .sequence _ | .mapping _, .tagged _ _ => simp [equal]
  | .tagged _ _, .null | .tagged _ _, .boolean _ | .tagged _ _, .number _ | .tagged _ _, .text _
  | .tagged _ _, .sequence _ | .tagged _ _, .mapping _ => simp [equal]

theorem equalItems_iff (first second : List Value) :
    equalItems first second = true ↔ first = second := by
  match first, second with
  | [], [] | [], _ :: _ | _ :: _, [] => simp [equalItems]
  | first :: firsts, second :: seconds =>
      simp [equalItems, equal_iff first second, equalItems_iff firsts seconds]

theorem equalEntries_iff (first second : List (Value × Value)) :
    equalEntries first second = true ↔ first = second := by
  match first, second with
  | [], [] | [], _ :: _ | _ :: _, [] => simp [equalEntries]
  | (key, first) :: firsts, (name, second) :: seconds =>
      simp [equalEntries, equal_iff key name, equal_iff first second,
        equalEntries_iff firsts seconds, and_assoc]

end

end Value

instance : DecidableEq Value := fun first second =>
  decidable_of_iff (first.equal second = true) (Value.equal_iff first second)

end Graft.Yaml
