/-
This file states what placing a child changes and what it leaves alone.
-/

import Graft.Node.Step
import Graft.Proofs.Entries

namespace Graft

namespace Node

/-- A child can be placed at any key of a mapping, and in a sequence up to the position past
the end. -/
def Takes : Node → Step → Prop
  | .mapping _, .key _ => True
  | .sequence items, .position index => index ≤ items.length
  | _, _ => False

/-- A node takes each step that leads to a child. -/
theorem takes_of_child {node child : Node} {step : Step}
    (found : node.child? step = some child) : node.Takes step := by
  cases node <;> cases step <;> simp [child?, Takes] at found ⊢
  exact Nat.le_of_lt (List.getElem?_eq_some_iff.mp found).1

/-- Placing the child that is there changes nothing. -/
theorem place_child {node child : Node} {step : Step}
    (found : node.child? step = some child) : node.place step child = node := by
  cases node <;> cases step <;> simp only [child?, reduceCtorEq] at found
  case mapping.key entries name => rw [place, Entries.put_found found]
  case sequence.position items index =>
      obtain ⟨inside, same⟩ := List.getElem?_eq_some_iff.mp found
      rw [place, if_pos inside, ← same, List.set_getElem_self]

/-- The placed child is found again. -/
theorem child?_place_same {node : Node} {step : Step} (taken : node.Takes step) (child : Node) :
    (node.place step child).child? step = some child := by
  cases node <;> cases step <;> simp only [Takes] at taken
  case mapping.key entries name => simp [place, child?]
  case sequence.position items index =>
      by_cases inside : index < items.length
      · simp [place, child?, inside]
      · have past : index = items.length := by omega
        simp [place, child?, past]

/-- The other children stay. -/
theorem child?_place_other {node : Node} {step other : Step} (taken : node.Takes step)
    (different : other ≠ step) (child : Node) :
    (node.place step child).child? other = node.child? other := by
  cases node <;> cases step <;> simp only [Takes] at taken
  case mapping.key entries name =>
      cases other with
      | key key =>
          have apart : key ≠ name := fun same => different (by rw [same])
          simp only [place, child?, Entries.find?_put_other apart]
      | position _ => rfl
  case sequence.position items index =>
      cases other with
      | key _ => simp only [place]; split <;> rfl
      | position position =>
          have apart : index ≠ position := fun same => different (by rw [same])
          by_cases inside : index < items.length
          · simp only [place, if_pos inside, child?, List.getElem?_set_ne apart]
          · have past : index = items.length := by omega
            simp only [place, if_neg inside, child?, List.getElem?_append]
            split
            · rfl
            · rw [List.getElem?_eq_none (by simp; omega), List.getElem?_eq_none (by omega)]

/-- Of two children placed at a step the second stays. -/
theorem place_place {node : Node} {step : Step} (taken : node.Takes step) (first second : Node) :
    (node.place step first).place step second = node.place step second := by
  cases node <;> cases step <;> simp only [Takes] at taken
  case mapping.key entries name => simp only [place, Entries.put_put]
  case sequence.position items index =>
      by_cases inside : index < items.length
      · simp [place, inside]
      · have past : index = items.length := by omega
        simp [place, past]

/-- Children that are there at two steps can be replaced in either order. -/
theorem place_comm {node old found : Node} {first second : Step} (different : first ≠ second)
    (firstFound : node.child? first = some old) (secondFound : node.child? second = some found)
    (child other : Node) :
    (node.place first child).place second other = (node.place second other).place first child := by
  cases node <;> cases first <;> simp only [child?, reduceCtorEq] at firstFound
  case mapping.key entries name =>
      cases second with
      | position _ => cases secondFound
      | key key =>
          have apart : key ≠ name := by
            rintro rfl
            exact different rfl
          have swapped := Entries.put_comm apart other child
            (Entries.mem_keys_of_find? secondFound) (Entries.mem_keys_of_find? firstFound)
          simp only [place, swapped]
  case sequence.position items index =>
      cases second with
      | key _ => cases secondFound
      | position position =>
          have apart : index ≠ position := by
            rintro rfl
            exact different rfl
          have inside : index < items.length := (List.getElem?_eq_some_iff.mp firstFound).1
          have otherInside : position < items.length := (List.getElem?_eq_some_iff.mp secondFound).1
          simp only [place, inside, otherInside, if_true, List.length_set]
          rw [List.set_comm child other apart]

/-- Steps lead on from the node that the steps before them lead to. -/
theorem at?_append (node : Node) (steps others : List Step) :
    node.at? (steps ++ others) = (node.at? steps).bind fun child => child.at? others := by
  induction steps generalizing node with
  | nil => rfl
  | cons step rest inductionHypothesis =>
      simp only [List.cons_append, at?, inductionHypothesis, Option.bind_assoc]

/-- Of two nodes put at the same steps the second stays. -/
theorem placeAt_placeAt (node : Node) (steps : List Step) (first second : Node) :
    (node.placeAt steps first).placeAt steps second = node.placeAt steps second := by
  induction steps generalizing node with
  | nil => rfl
  | cons step rest inductionHypothesis =>
      cases found : node.child? step with
      | none => simp only [placeAt, found]
      | some child =>
          have taken := takes_of_child found
          simp only [placeAt, found, child?_place_same taken, place_place taken,
            inductionHypothesis]

/-- Nodes that are there at steps which lead apart can be replaced in either order. -/
theorem placeAt_comm {node old found : Node} {steps others : List Step}
    (notAbove : ¬ steps <+: others) (notBelow : ¬ others <+: steps)
    (firstFound : node.at? steps = some old) (secondFound : node.at? others = some found)
    (value given : Node) :
    (node.placeAt steps value).placeAt others given =
      (node.placeAt others given).placeAt steps value := by
  induction steps generalizing node others with
  | nil => exact absurd List.nil_prefix notAbove
  | cons first steps inductionHypothesis =>
      cases others with
      | nil => exact absurd List.nil_prefix notBelow
      | cons second others =>
          obtain ⟨child, childFound, restFound⟩ := Option.bind_eq_some_iff.mp firstFound
          obtain ⟨other, otherFound, othersFound⟩ := Option.bind_eq_some_iff.mp secondFound
          have taken := takes_of_child childFound
          have otherTaken := takes_of_child otherFound
          by_cases same : first = second
          · -- The steps part further down, in the same child.
            subst same
            obtain rfl := Option.some.inj (childFound.symm.trans otherFound)
            simp only [List.cons_prefix_cons, true_and] at notAbove notBelow
            simp only [placeAt, childFound, child?_place_same taken, place_place taken,
              inductionHypothesis notAbove notBelow restFound othersFound]
          · simp only [placeAt, childFound, otherFound, child?_place_other taken (Ne.symm same),
              child?_place_other otherTaken same]
            exact place_comm same childFound otherFound _ _

/-- The value of a key is the child at its step. -/
theorem entry?_eq_child? (node : Node) (key : String) :
    node.entry? key = node.child? (.key key) := by
  cases node <;> rfl

/-- A child placed at a key leaves the fields under other keys alone. -/
theorem entryAt?_place_other {name other : String} (different : other ≠ name) (node child : Node)
    (rest : List String) :
    (node.place (.key name) child).entryAt? (other :: rest) = node.entryAt? (other :: rest) := by
  cases node with
  | mapping entries => simp only [place, entryAt?, entry?, Entries.find?_put_other different]
  | _ => rfl

/-- The fields under a key are those of the child that is placed there. -/
theorem entryAt?_place_same {node : Node} {name : String} (taken : node.Takes (.key name))
    (child : Node) (rest : List String) :
    (node.place (.key name) child).entryAt? (name :: rest) = child.entryAt? rest := by
  rw [entryAt?, entry?_eq_child?, child?_place_same taken, Option.bind_some]

/-- The node put at a chain of keys that leads somewhere is found there. -/
theorem entryAt?_placeAt_same {node old : Node} {keys : List String}
    (found : node.entryAt? keys = some old) (new : Node) :
    (node.placeAt (keys.map .key) new).entryAt? keys = some new := by
  induction keys generalizing node with
  | nil => rfl
  | cons key rest inductionHypothesis =>
      obtain ⟨child, childFound, restFound⟩ := Option.bind_eq_some_iff.mp found
      rw [entry?_eq_child?] at childFound
      simp only [List.map_cons, placeAt, childFound]
      rw [entryAt?_place_same (takes_of_child childFound)]
      exact inductionHypothesis restFound

/-- The nodes stay that lie neither above nor below the one that is put at a chain of keys. -/
theorem entryAt?_placeAt_other {keys others : List String} (notAbove : ¬ others <+: keys)
    (notBelow : ¬ keys <+: others) (node new : Node) :
    (node.placeAt (keys.map .key) new).entryAt? others = node.entryAt? others := by
  induction keys generalizing node others with
  | nil => exact absurd List.nil_prefix notBelow
  | cons key rest inductionHypothesis =>
      cases others with
      | nil => exact absurd List.nil_prefix notAbove
      | cons other others =>
          simp only [List.map_cons, placeAt]
          cases found : node.child? (.key key) with
          | none => rfl
          | some child =>
              by_cases same : other = key
              · subst same
                simp only [List.cons_prefix_cons, true_and] at notAbove notBelow
                rw [entryAt?_place_same (takes_of_child found),
                  inductionHypothesis notAbove notBelow, entryAt?, entry?_eq_child?, found,
                  Option.bind_some]
              · exact entryAt?_place_other same node _ others

/-- The second tree is the first one with the node at the steps exchanged: every key, the order
of keys and items, and every other node are those of the first tree. -/
inductive Replaced (old new : Node) : List Step → Node → Node → Prop where
  | here : Replaced old new [] old new
  | entry {front back : List (String × Node)} {name : String} {rest : List Step}
      {before after : Node} (first : name ∉ Entries.keys front)
      (inside : Replaced old new rest before after) :
      Replaced old new (.key name :: rest) (.mapping (front ++ (name, before) :: back))
        (.mapping (front ++ (name, after) :: back))
  | item {front back : List Node} {rest : List Step} {before after : Node}
      (inside : Replaced old new rest before after) :
      Replaced old new (.position front.length :: rest) (.sequence (front ++ before :: back))
        (.sequence (front ++ after :: back))

/-- Replacing the node at steps that lead somewhere exchanges that node only. -/
theorem replaced_placeAt {node old : Node} {steps : List Step} (found : node.at? steps = some old)
    (new : Node) : Replaced old new steps node (node.placeAt steps new) := by
  induction steps generalizing node with
  | nil =>
      obtain rfl := Option.some.inj found
      exact .here
  | cons step rest inductionHypothesis =>
      obtain ⟨child, childFound, restFound⟩ := Option.bind_eq_some_iff.mp found
      have inside := inductionHypothesis restFound
      simp only [placeAt, childFound]
      cases node <;> cases step <;> simp only [child?, reduceCtorEq] at childFound
      case mapping.key entries name =>
          obtain ⟨front, back, absent, split, changed⟩ := Entries.put_split childFound
          rw [place, changed, split]
          exact .entry absent inside
      case sequence.position items index =>
          obtain ⟨inRange, same⟩ := List.getElem?_eq_some_iff.mp childFound
          have split : items = items.take index ++ child :: items.drop (index + 1) := by
            rw [← same, List.getElem_cons_drop, List.take_append_drop]
          have front : (items.take index).length = index := List.length_take_of_le (by omega)
          have exchanged : Replaced old new (.position (items.take index).length :: rest)
              (.sequence (items.take index ++ child :: items.drop (index + 1))) _ := .item inside
          rw [front, ← split] at exchanged
          rw [place, if_pos inRange, List.set_eq_take_append_cons_drop, if_pos inRange]
          exact exchanged

/-- Replacing a node by itself changes nothing. -/
theorem placeAt_found {node value : Node} {steps : List Step}
    (found : node.at? steps = some value) : node.placeAt steps value = node := by
  induction steps generalizing node with
  | nil => exact (Option.some.inj found).symm
  | cons step rest inductionHypothesis =>
      obtain ⟨child, childFound, restFound⟩ := Option.bind_eq_some_iff.mp found
      simp only [placeAt, childFound, inductionHypothesis restFound]
      exact place_child childFound

end Node

end Graft
