/-
This file states when a chain of results gives a value.
-/

namespace Graft.Result

variable {E A B : Type}

@[simp] theorem ok_bind (value : A) (next : A → Except E B) :
    (Except.ok value >>= next) = next value := rfl

@[simp] theorem error_bind (failure : E) (next : A → Except E B) :
    (Except.error failure >>= next) = .error failure := rfl

@[simp] theorem pure_eq_ok (value : A) : (pure value : Except E A) = .ok value := rfl

/-- A chain gives a value when its first part does and the rest does from there. -/
theorem bind_eq_ok {result : Except E A} {next : A → Except E B} {value : B} :
    (result >>= next) = .ok value ↔ ∃ middle, result = .ok middle ∧ next middle = .ok value := by
  constructor
  · intro chained
    cases result with
    | error failure => cases chained
    | ok middle => exact ⟨middle, rfl, chained⟩
  · rintro ⟨middle, rfl, given⟩
    exact given

/-- A chain fails when its first part does or the rest does from there. -/
theorem bind_eq_error {result : Except E A} {next : A → Except E B} {failure : E} :
    (result >>= next) = .error failure ↔
      result = .error failure ∨ ∃ middle, result = .ok middle ∧ next middle = .error failure := by
  cases result <;> simp

/-- A run over some items goes on over the items after them. -/
theorem foldlM_append {step : A → B → Except E A} {start middle last : A} {front back : List B}
    (first : front.foldlM step start = .ok middle) (second : back.foldlM step middle = .ok last) :
    (front ++ back).foldlM step start = .ok last := by
  rw [List.foldlM_append, first, ok_bind, second]

/-- A run fails at the first item at which a step fails. -/
theorem foldlM_eq_error {step : A → B → Except E A} {start : A} {items : List B} {failure : E} :
    items.foldlM step start = .error failure ↔
      ∃ front item back middle, items = front ++ item :: back ∧
        front.foldlM step start = .ok middle ∧ step middle item = .error failure := by
  constructor
  · intro failed
    induction items generalizing start with
    | nil => cases failed
    | cons item rest inductionHypothesis =>
        rw [List.foldlM_cons] at failed
        rcases bind_eq_error.mp failed with early | ⟨next, stepped, late⟩
        · exact ⟨[], item, rest, start, rfl, rfl, early⟩
        · obtain ⟨front, later, back, middle, rfl, run, refused⟩ := inductionHypothesis late
          refine ⟨item :: front, later, back, middle, rfl, ?_, refused⟩
          rw [List.foldlM_cons, stepped, ok_bind, run]
  · rintro ⟨front, item, back, middle, rfl, run, refused⟩
    rw [List.foldlM_append, run, ok_bind, List.foldlM_cons, refused, error_bind]

/-- Renaming the failure of a result keeps its value. -/
theorem mapError_eq_ok {F : Type} {result : Except E A} {rename : E → F} {value : A} :
    result.mapError rename = .ok value ↔ result = .ok value := by
  cases result with
  | error failure => constructor <;> intro given <;> cases given
  | ok found =>
      constructor <;> intro given
      · cases given
        rfl
      · cases given
        rfl

/-- Changing the value of a result keeps its failure. -/
theorem map_eq_ok {change : A → B} {result : Except E A} {value : B} :
    result.map change = .ok value ↔ ∃ middle, result = .ok middle ∧ change middle = value := by
  cases result with
  | error failure =>
      constructor
      · intro given
        cases given
      · rintro ⟨_, given, -⟩
        cases given
  | ok found =>
      constructor
      · intro given
        cases given
        exact ⟨found, rfl, rfl⟩
      · rintro ⟨_, given, rfl⟩
        cases given
        rfl

/-- Changing the value of a result changes nothing about its failure. -/
theorem map_eq_error {change : A → B} {result : Except E A} {failure : E} :
    result.map change = .error failure ↔ result = .error failure := by
  cases result with
  | error other => simp [Except.map]
  | ok found => simp [Except.map]

/-- Whatever failure a result has, it is an allowed one. -/
def FailsOnly (allowed : E → Prop) (result : Except E A) : Prop :=
  ∀ failure, result = .error failure → allowed failure

namespace FailsOnly

variable {allowed : E → Prop}

theorem ok (value : A) : FailsOnly allowed (.ok value : Except E A) := nofun

theorem error {failure : E} (holds : allowed failure) :
    FailsOnly allowed (.error failure : Except E A) := by
  rintro _ ⟨⟩
  exact holds

/-- A chain fails as its parts do. -/
theorem bind {result : Except E A} {next : A → Except E B} (first : FailsOnly allowed result)
    (rest : ∀ value, FailsOnly allowed (next value)) : FailsOnly allowed (result >>= next) := by
  intro failure failed
  rcases bind_eq_error.mp failed with early | ⟨middle, -, late⟩
  · exact first failure early
  · exact rest middle failure late

/-- The first part of a chain fails as the chain does. -/
theorem of_bind {result : Except E A} {next : A → Except E B}
    (only : FailsOnly allowed (result >>= next)) : FailsOnly allowed result :=
  fun failure failed => only failure (bind_eq_error.mpr (.inl failed))

theorem map {result : Except E A} (only : FailsOnly allowed result) (change : A → B) :
    FailsOnly allowed (result.map change) := by
  cases result with
  | error failure => exact error (only failure rfl)
  | ok value => exact ok (change value)

/-- Two chains that start alike are the same if they go on alike wherever the failures of the one
are allowed ones. -/
theorem bind_congr {result : Except E A} {next other : A → Except E B}
    (only : FailsOnly allowed (result >>= next))
    (same : ∀ middle, FailsOnly allowed (next middle) → other middle = next middle) :
    (result >>= other) = (result >>= next) := by
  cases result with
  | error failure => rfl
  | ok middle => exact same middle only

end FailsOnly

/-- A result that is a value. -/
def Succeeds (result : Except E A) : Prop := ∃ value, result = .ok value

@[simp] theorem succeeds_ok (value : A) : Succeeds (.ok value : Except E A) := ⟨value, rfl⟩

@[simp] theorem not_succeeds_error (failure : E) : ¬Succeeds (.error failure : Except E A) := by
  rintro ⟨_, given⟩
  cases given

/-- A chain succeeds when its parts do, if the success of the second does not depend on the value of
the first. -/
theorem succeeds_bind_iff {result : Except E A} {next : A → Except E B} {rest : Prop}
    (same : ∀ value, Succeeds (next value) ↔ rest) :
    Succeeds (result >>= next) ↔ Succeeds result ∧ rest := by
  cases result with
  | error failure => simp
  | ok value => simpa using same value

/-- A chain that only makes another value at its end succeeds when its first part does. -/
theorem succeeds_bind_pure_iff {result : Except E A} {make : A → B} :
    Succeeds (result >>= fun value => pure (make value)) ↔ Succeeds result := by
  cases result <;> simp

/-- Changing the value of a result changes nothing about its success. -/
theorem succeeds_map_iff {result : Except E A} {change : A → B} :
    Succeeds (result.map change) ↔ Succeeds result := by
  cases result with
  | error failure => exact iff_of_false (not_succeeds_error _) (not_succeeds_error _)
  | ok value => exact iff_of_true (succeeds_ok _) (succeeds_ok _)

/-- Renaming the failure of a result changes nothing about its success. -/
theorem succeeds_mapError_iff {F : Type} {result : Except E A} {rename : E → F} :
    Succeeds (result.mapError rename) ↔ Succeeds result :=
  exists_congr fun _ => mapError_eq_ok

/-- A list of results succeeds when each of them does. -/
theorem succeeds_mapM_iff {action : A → Except E B} {items : List A} :
    Succeeds (items.mapM action) ↔ ∀ item ∈ items, Succeeds (action item) := by
  induction items with
  | nil => simp
  | cons item rest inductionHypothesis =>
      rw [List.mapM_cons, List.forall_mem_cons, ← inductionHypothesis]
      exact succeeds_bind_iff fun _ => succeeds_bind_pure_iff

/-- Two results are compared by their failures or by their values. -/
instance decidableEq [DecidableEq E] [DecidableEq A] : DecidableEq (Except E A)
  | .ok first, .ok second => decidable_of_iff (first = second) (by simp)
  | .error first, .error second => decidable_of_iff (first = second) (by simp)
  | .ok _, .error _ | .error _, .ok _ => isFalse (by simp)

end Graft.Result
