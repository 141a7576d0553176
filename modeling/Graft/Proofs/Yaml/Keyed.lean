/-
This file shows that no mapping in a value that was read has a key twice.
-/

import Graft.Proofs.Result
import Graft.Yaml.Document

namespace Graft

namespace Yaml

namespace Building

variable {A B : Type} {holds : A → Prop}

/-- A building ensures a property when each value that it gives has it. -/
def Ensures (building : Building A) (holds : A → Prop) : Prop :=
  ∀ start value count, building start = .ok (value, count) → holds value

theorem Ensures.pure {value : A} (held : holds value) : Ensures (Pure.pure value) holds := by
  intro start found count given
  cases given
  exact held

theorem Ensures.throw (fault : Fault) : Ensures (throw fault : Building A) holds := by
  intro start found count given
  cases given

theorem Ensures.lift {result : Except Fault A} (held : ∀ value, result = .ok value → holds value) :
    Ensures (liftM result) holds := by
  intro start value count given
  cases result with
  | error fault => cases given
  | ok found =>
      cases given
      exact held _ rfl

/-- A chain ensures what its last part does after each value that its first part may give. -/
theorem Ensures.bind {building : Building A} {next : A → Building B} {result : B → Prop}
    (first : Ensures building holds) (later : ∀ value, holds value → Ensures (next value) result) :
    Ensures (building >>= next) result := by
  intro start value count given
  obtain ⟨⟨found, reached⟩, built, rest⟩ := Result.bind_eq_ok.mp given
  exact later found (first start found reached built) reached value count rest

/-- A changed value has what is ensured of all values before the change. -/
theorem Ensures.map {building : Building A} {change : A → B} {result : B → Prop}
    (first : Ensures building holds) (changed : ∀ value, holds value → result (change value)) :
    Ensures (change <$> building) result :=
  first.bind fun value held => .pure (changed value held)

/-- What is ensured of the value of each item is ensured of the values of all items. -/
theorem Ensures.mapM {items : List B} {step : B → Building A}
    (each : ∀ item, Ensures (step item) holds) :
    Ensures (items.mapM step) fun values => ∀ value ∈ values, holds value := by
  induction items with
  | nil => exact .pure (by simp)
  | cons item rest inductionHypothesis =>
      rw [List.mapM_cons]
      refine (each item).bind fun first held => inductionHypothesis.bind fun others all => ?_
      exact .pure (List.forall_mem_cons.mpr ⟨held, all⟩)

end Building

namespace Value

mutual

/-- No mapping in a value has a key twice. -/
def Keyed : Value → Prop
  | .sequence items => ItemsKeyed items
  | .mapping entries =>
      entries.Pairwise (fun first second => same first.1 second.1 = false) ∧ EntriesKeyed entries
  | .tagged _ content => content.Keyed
  | _ => True

def ItemsKeyed : List Value → Prop
  | [] => True
  | item :: rest => item.Keyed ∧ ItemsKeyed rest

def EntriesKeyed : List (Value × Value) → Prop
  | [] => True
  | (key, value) :: rest => key.Keyed ∧ value.Keyed ∧ EntriesKeyed rest

end

theorem itemsKeyed_iff {items : List Value} : ItemsKeyed items ↔ ∀ item ∈ items, item.Keyed := by
  induction items with
  | nil => simp [ItemsKeyed]
  | cons item rest inductionHypothesis => simp [ItemsKeyed, inductionHypothesis]

theorem entriesKeyed_iff {entries : List (Value × Value)} :
    EntriesKeyed entries ↔ ∀ entry ∈ entries, entry.1.Keyed ∧ entry.2.Keyed := by
  induction entries with
  | nil => simp [EntriesKeyed]
  | cons entry rest inductionHypothesis => simp [EntriesKeyed, inductionHypothesis, and_assoc]

/-- The check for distinct keys passes when no key comes twice. -/
theorem check_iff {entries : List (Value × Value)} :
    distinct.check entries = true ↔
      entries.Pairwise fun first second => same first.1 second.1 = false := by
  induction entries with
  | nil => simp [distinct.check]
  | cons entry rest inductionHypothesis =>
      obtain ⟨key, value⟩ := entry
      simp [distinct.check, inductionHypothesis]

/-- The entries are given as they are if they pass the check. -/
theorem distinct_eq_ok {entries given : List (Value × Value)}
    (passed : distinct entries = .ok given) :
    given = entries ∧ entries.Pairwise fun first second => same first.1 second.1 = false := by
  rw [distinct] at passed
  split at passed
  · rename_i checked
    cases passed
    exact ⟨rfl, check_iff.mp checked⟩
  · cases passed

/-- A whole number is no collection. -/
theorem keyed_of_whole? {text : String} {value : Value} (read : whole? text = .ok (some value)) :
    value.Keyed := by
  rw [whole?] at read
  split at read
  · split at read
    · cases read
      trivial
    · split at read <;> cases read
  · cases read

/-- A floating-point number is no collection. -/
theorem keyed_of_real? {text : String} {value : Value} (read : real? text = some value) :
    value.Keyed := by
  obtain ⟨number, -, rfl⟩ := Option.map_eq_some_iff.mp read
  trivial

/-- A plain scalar is no collection. -/
theorem keyed_of_ofPlain {text : String} {value : Value} (read : ofPlain text = .ok value) :
    value.Keyed := by
  rw [ofPlain] at read
  split at read
  · cases read
    trivial
  · split at read
    · cases read
      trivial
    · obtain ⟨whole, found, read⟩ := Result.bind_eq_ok.mp read
      split at read
      · cases read
        exact keyed_of_whole? found
      · split at read
        · cases read
          trivial
        · cases read
          cases number : real? text with
          | none => trivial
          | some value => exact keyed_of_real? number

/-- A scalar without a tag is no collection. -/
theorem keyed_of_ofScalar {text : String} {style : Style} {value : Value}
    (read : ofScalar text style = .ok value) : value.Keyed := by
  rw [ofScalar] at read
  split at read
  · exact keyed_of_ofPlain read
  · cases read
    trivial

/-- A scalar with a tag is no collection. -/
theorem keyed_of_ofTaggedScalar {tag : Tag} {text : String} {value : Value}
    (read : ofTaggedScalar tag text = .ok value) : value.Keyed := by
  simp only [ofTaggedScalar] at read
  split at read
  · split at read
    · rename_i found
      cases read
      obtain ⟨_, -, rfl⟩ := Option.map_eq_some_iff.mp found
      trivial
    · cases read
  · split at read
    · obtain ⟨whole, found, read⟩ := Result.bind_eq_ok.mp read
      split at read
      · cases read
        exact keyed_of_whole? found
      · cases read
    · split at read
      · split at read
        · rename_i found
          cases read
          exact keyed_of_real? found
        · cases read
      · split at read
        · split at read
          · rename_i found
            cases read
            split at found
            · cases found
              trivial
            · cases found
          · cases read
        · cases read
          trivial

/-- A scalar is no collection. -/
theorem keyed_of_ofLeaf {properties : Properties} {written : String} {style : Style} {value : Value}
    (read : ofLeaf properties written style = .ok value) : value.Keyed := by
  rw [ofLeaf] at read
  split at read
  · split at read
    · exact keyed_of_ofScalar read
    · exact keyed_of_ofTaggedScalar read
  · exact keyed_of_ofScalar read

/-- A tree has a keyed value if the trees inside it have. -/
theorem ensures_content {inner? : Option (Tree → Building Value)}
    (inner : ∀ build ∈ inner?, ∀ tree, Building.Ensures (build tree) Keyed) (tree : Tree) :
    Building.Ensures (content inner? tree) Keyed := by
  cases tree with
  | scalar properties written style => exact .lift fun value read => keyed_of_ofLeaf read
  | «alias» number => exact .throw _
  | sequence _ items =>
      cases inner? with
      | none => exact .throw _
      | some build =>
          refine (Building.Ensures.mapM (inner build rfl)).map fun values keyed => ?_
          exact itemsKeyed_iff.mpr keyed
  | mapping _ entries =>
      cases inner? with
      | none => exact .throw _
      | some build =>
          have pair (entry : Tree × Tree) : Building.Ensures
              (do
                let key ← build entry.1
                let value ← build entry.2
                pure (key, value))
              fun pair => pair.1.Keyed ∧ pair.2.Keyed :=
            (inner build rfl entry.1).bind fun _ key =>
              (inner build rfl entry.2).bind fun _ value => .pure ⟨key, value⟩
          refine (Building.Ensures.mapM pair).bind fun pairs keyed => ?_
          refine Building.Ensures.map (.lift fun entries passed => passed) fun entries passed => ?_
          obtain ⟨rfl, apart⟩ := distinct_eq_ok passed
          exact ⟨apart, entriesKeyed_iff.mpr keyed⟩

/-- A name does not make a value less keyed. -/
theorem keyed_named (tree : Tree) {value : Value} (keyed : value.Keyed) :
    (named tree value).Keyed := by
  rw [named]
  split
  · exact keyed
  · exact keyed

/-- Each value that is built is keyed. -/
theorem ensures_build (anchors : Anchors) (depth : Nat) (tree : Tree) :
    Building.Ensures (build anchors depth tree) Keyed := by
  have followed {inner? : Option (Tree → Building Value)}
      (inner : ∀ build ∈ inner?, ∀ tree, Building.Ensures (build tree) Keyed) (tree : Tree) :
      Building.Ensures (ofFollowed anchors inner? tree) Keyed := by
    refine Building.Ensures.bind (fun _ _ _ _ => trivial) fun tree _ => ?_
    exact (ensures_content inner tree).bind fun value keyed => .pure (keyed_named tree keyed)
  induction depth generalizing tree with
  | zero => exact followed (by simp) tree
  | succ depth inductionHypothesis =>
      refine followed ?_ tree
      rintro build ⟨⟩
      exact inductionHypothesis

/-- No mapping in a value that was read has a key twice. -/
theorem keyed_of_ofTree {tree : Tree} {value : Value} (read : ofTree tree = .ok value) :
    value.Keyed := by
  obtain ⟨⟨found, count⟩, built, same⟩ := Result.map_eq_ok.mp read
  subst same
  exact ensures_build _ _ tree 0 found count built

end Value

end Yaml

end Graft
