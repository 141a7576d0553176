/-
This file treats a list of pairs as a mapping that keeps the order in which its keys came.
-/

namespace Graft.Entries

variable {A : Type}

/-- The value of the first pair with the key. -/
def find? (key : String) : List (String × A) → Option A
  | [] => none
  | (name, value) :: rest => if name = key then some value else find? key rest

/-- A key that is present keeps its place, and a new key comes last. -/
def put (key : String) (value : A) : List (String × A) → List (String × A)
  | [] => [(key, value)]
  | (name, old) :: rest =>
      if name = key then (key, value) :: rest else (name, old) :: put key value rest

def erase (key : String) : List (String × A) → List (String × A)
  | [] => []
  | (name, value) :: rest =>
      if name = key then rest else (name, value) :: erase key rest

/-- The pairs are put one after another, so the last value of a key wins. -/
def ofPairs (pairs : List (String × A)) : List (String × A) :=
  pairs.foldl (fun entries pair => put pair.1 pair.2 entries) []

def keys (entries : List (String × A)) : List String := entries.map Prod.fst

@[simp] theorem find?_nil (key : String) : find? key ([] : List (String × A)) = none := rfl

theorem find?_cons (key name : String) (value : A) (rest : List (String × A)) :
    find? key ((name, value) :: rest) = if name = key then some value else find? key rest := rfl

@[simp] theorem find?_put_same (key : String) (value : A) (entries : List (String × A)) :
    find? key (put key value entries) = some value := by
  induction entries with
  | nil => simp [put, find?]
  | cons pair rest inductionHypothesis =>
      by_cases same : pair.1 = key
      · simp [put, find?, same]
      · simp [put, find?, same, inductionHypothesis]

theorem find?_put_other {key other : String} (different : other ≠ key) (value : A)
    (entries : List (String × A)) :
    find? other (put key value entries) = find? other entries := by
  induction entries with
  | nil => simp [put, find?, Ne.symm different]
  | cons pair rest inductionHypothesis =>
      by_cases same : pair.1 = key
      · have apart : ¬ key = other := fun equal => different equal.symm
        have apartFirst : ¬ pair.1 = other := by rw [same]; exact apart
        simp [put, find?, same, apart]
      · simp [put, find?, same, inductionHypothesis]

end Graft.Entries
