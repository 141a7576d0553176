/-
This file decides whether two trees are equal, so that concrete runs can be evaluated.
-/

import Graft.Path.Write

namespace Graft

namespace Node

mutual

/-- Two trees are the same when their shapes and scalars are the same. -/
def same : Node → Node → Bool
  | .mapping first, .mapping second => sameEntries first second
  | .sequence first, .sequence second => sameItems first second
  | .text first, .text second => first == second
  | .number first, .number second => first == second
  | .boolean first, .boolean second => first == second
  | .null, .null => true
  | _, _ => false

def sameItems : List Node → List Node → Bool
  | [], [] => true
  | first :: firsts, second :: seconds => first.same second && sameItems firsts seconds
  | _, _ => false

def sameEntries : List (String × Node) → List (String × Node) → Bool
  | [], [] => true
  | (key, first) :: firsts, (name, second) :: seconds =>
      key == name && first.same second && sameEntries firsts seconds
  | _, _ => false

end

mutual

/-- The comparison decides equality of trees. -/
theorem same_iff (first second : Node) : first.same second = true ↔ first = second := by
  match first, second with
  | .mapping first, .mapping second => simp [same, sameEntries_iff first second]
  | .sequence first, .sequence second => simp [same, sameItems_iff first second]
  | .text _, second => cases second <;> simp [same]
  | .number _, second => cases second <;> simp [same]
  | .boolean _, second => cases second <;> simp [same]
  | .null, second => cases second <;> simp [same]
  | .mapping _, .sequence _ | .mapping _, .text _ | .mapping _, .number _
  | .mapping _, .boolean _ | .mapping _, .null => simp [same]
  | .sequence _, .mapping _ | .sequence _, .text _ | .sequence _, .number _
  | .sequence _, .boolean _ | .sequence _, .null => simp [same]

theorem sameItems_iff (first second : List Node) :
    sameItems first second = true ↔ first = second := by
  match first, second with
  | [], [] | [], _ :: _ | _ :: _, [] => simp [sameItems]
  | first :: firsts, second :: seconds =>
      simp [sameItems, same_iff first second, sameItems_iff firsts seconds]

theorem sameEntries_iff (first second : List (String × Node)) :
    sameEntries first second = true ↔ first = second := by
  match first, second with
  | [], [] | [], _ :: _ | _ :: _, [] => simp [sameEntries]
  | (key, first) :: firsts, (name, second) :: seconds =>
      simp [sameEntries, same_iff first second, sameEntries_iff firsts seconds, and_assoc]

end

end Node

instance : DecidableEq Node := fun first second =>
  decidable_of_iff (first.same second = true) (Node.same_iff first second)

deriving instance DecidableEq for Edit

end Graft
