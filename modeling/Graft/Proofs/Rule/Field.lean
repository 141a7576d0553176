/-
This file describes what the fields of a target do to the tree of one resource: the value that
each of them gets, and the tree after some of them or the cause why one of them fails.
-/

import Graft.Proofs.Path.Nested
import Graft.Rule.Run

namespace Graft

open Rule (Cause)

namespace TargetField

/-- The value that a field gets in a tree. Without a scope it is the value of the source. With one
it is the text that is at the field now, with the text of the value in place of each match. -/
inductive Gives (field : TargetField) (bound : Nat) (value root : Node) : Node → Prop where
  | whole (entire : field.scope? = none) : Gives field bound value root value
  | spliced {scope : Pattern} {current : Node} {text replacement : String}
      (narrowed : field.scope? = some scope) (found : root.read field.path bound = .ok current)
      (textual : current.scalarText? = some text) (given : value.scalarText? = some replacement)
      (matched : scope.isMatch text = true) :
      Gives field bound value root (.text (scope.replaceAll text replacement))

/-- Why a field with a scope gets no value: nothing can be read there, one of the two is no
scalar, or the scope matches nowhere. -/
inductive Refuses (field : TargetField) (bound : Nat) (value : Node) (label : String)
    (root : Node) : Cause → Prop where
  | unread {scope : Pattern} {failure : Path.Failure} (narrowed : field.scope? = some scope)
      (failed : root.read field.path bound = .error failure) :
      Refuses field bound value label root (.field field.path.source label failure)
  | container {scope : Pattern} {current : Node} (narrowed : field.scope? = some scope)
      (found : root.read field.path bound = .ok current)
      (container : current.kind ≠ .scalar ∨ value.kind ≠ .scalar) :
      Refuses field bound value label root (.scopeNotScalar field.path.source label)
  | unmatched {scope : Pattern} {current : Node} {text replacement : String}
      (narrowed : field.scope? = some scope) (found : root.read field.path bound = .ok current)
      (textual : current.scalarText? = some text) (given : value.scalarText? = some replacement)
      (unmatched : scope.isMatch text = false) :
      Refuses field bound value label root
        (.scopeNoMatch scope.source text field.path.source label)

/-- A field fails when it gets no value, which leaves the tree as it was, or when the write of its
value fails. -/
inductive Fails (field : TargetField) (bound : Nat) (value : Node) (label : String)
    (root : Node) : Node → Cause → Prop where
  | refused {cause : Cause} (refuses : field.Refuses bound value label root cause) :
      Fails field bound value label root root cause
  | unwritten {given left : Node} {failure : Path.Failure}
      (gives : field.Gives bound value root given)
      (failed : root.write field.path given bound = .failed left failure) :
      Fails field bound value label root left (.field field.path.source label failure)

variable {field : TargetField} {bound : Nat} {value root : Node} {label : String}

/-- The new value of a field is the one that it gets. -/
theorem Gives.newValue_eq {given : Node} (gives : field.Gives bound value root given) :
    field.newValue bound value label root = .ok given := by
  cases gives with
  | whole entire => rw [newValue, entire]
  | spliced narrowed found textual given matched =>
      simp only [newValue, narrowed, found, textual, given, matched, if_true]

/-- A field that gets no value has the cause instead. -/
theorem Refuses.newValue_eq {cause : Cause} (refuses : field.Refuses bound value label root cause) :
    field.newValue bound value label root = .error cause := by
  cases refuses with
  | unread narrowed failed => simp only [newValue, narrowed, failed]
  | container narrowed found container =>
      simp only [newValue, narrowed, found]
      split
      · rename_i textual given
        rcases container with container | container
        · rw [Node.scalarText?_eq_none_iff.mpr container] at textual
          cases textual
        · rw [Node.scalarText?_eq_none_iff.mpr container] at given
          cases given
      · rfl
  | unmatched narrowed found textual given unmatched =>
      simp only [newValue, narrowed, found, textual, given, unmatched, Bool.false_eq_true, if_false]

/-- A field gets a value, or there is a cause why it gets none. -/
theorem gives_or_refuses (field : TargetField) (bound : Nat) (value : Node) (label : String)
    (root : Node) :
    (∃ given, field.Gives bound value root given) ∨
      ∃ cause, field.Refuses bound value label root cause := by
  cases narrowed : field.scope? with
  | none => exact .inl ⟨value, .whole narrowed⟩
  | some scope =>
      cases found : root.read field.path bound with
      | error failure => exact .inr ⟨_, .unread narrowed found⟩
      | ok current =>
          cases textual : current.scalarText? with
          | none =>
              have container := Node.scalarText?_eq_none_iff.mp textual
              exact .inr ⟨_, .container narrowed found (.inl container)⟩
          | some text =>
              cases given : value.scalarText? with
              | none =>
                  have container := Node.scalarText?_eq_none_iff.mp given
                  exact .inr ⟨_, .container narrowed found (.inr container)⟩
              | some replacement =>
                  cases matched : scope.isMatch text with
                  | true => exact .inl ⟨_, .spliced narrowed found textual given matched⟩
                  | false => exact .inr ⟨_, .unmatched narrowed found textual given matched⟩

/-- A field whose value can be written leaves the tree of that write. -/
theorem Gives.write_eq {given tree : Node} (gives : field.Gives bound value root given)
    (written : root.write field.path given bound = .done tree) :
    field.write bound value label root = ⟨tree, none⟩ := by
  rw [write, gives.newValue_eq]
  simp only [written]
  rfl

/-- A field that fails leaves its tree with the cause. -/
theorem Fails.write_eq {left : Node} {cause : Cause}
    (fails : field.Fails bound value label root left cause) :
    field.write bound value label root = ⟨left, some cause⟩ := by
  cases fails with
  | refused refuses => rw [write, refuses.newValue_eq]
  | unwritten gives failed =>
      rw [write, gives.newValue_eq]
      simp only [failed]
      rfl

/-- A field is written or fails. -/
theorem written_or_fails (field : TargetField) (bound : Nat) (value : Node) (label : String)
    (root : Node) :
    (∃ given tree, field.Gives bound value root given ∧
      root.write field.path given bound = .done tree) ∨
      ∃ left cause, field.Fails bound value label root left cause := by
  rcases field.gives_or_refuses bound value label root with ⟨given, gives⟩ | ⟨cause, refuses⟩
  · cases edit : root.write field.path given bound with
    | mk tree failure? =>
        cases failure? with
        | none => exact .inl ⟨given, tree, gives, edit⟩
        | some failure => exact .inr ⟨tree, _, .unwritten gives edit⟩
  · exact .inr ⟨root, cause, .refused refuses⟩

end TargetField

namespace Target

/-- The tree after the fields were written one after another, each with the value that it gets in
the tree that the fields before it left. -/
inductive Written (bound : Nat) (value : Node) : List TargetField → Node → Node → Prop where
  | nil (root : Node) : Written bound value [] root root
  | cons {field : TargetField} {rest : List TargetField} {root given middle last : Node}
      (gives : field.Gives bound value root given)
      (written : root.write field.path given bound = .done middle)
      (others : Written bound value rest middle last) :
      Written bound value (field :: rest) root last

variable {bound : Nat} {value root reached : Node}

/-- After fields that were written the run over the fields goes on from their tree. -/
theorem Written.writeFields_append {earlier : List TargetField}
    (written : Written bound value earlier root reached) (label : String)
    (rest : List TargetField) :
    writeFields bound value label (earlier ++ rest) root =
      writeFields bound value label rest reached := by
  induction written with
  | nil root => rfl
  | cons gives written _ inductionHypothesis =>
      rw [List.cons_append, writeFields, gives.write_eq written]
      exact inductionHypothesis

/-- Fields that can all be written leave their tree. -/
theorem Written.writeFields_eq {fields : List TargetField}
    (written : Written bound value fields root reached) (label : String) :
    writeFields bound value label fields root = ⟨reached, none⟩ := by
  have run := written.writeFields_append label []
  rw [List.append_nil] at run
  exact run

/-- One field without a scope is written with the value itself. -/
theorem written_whole_iff {path : Path} :
    Written bound value [⟨path, none⟩] root reached ↔
      root.write path value bound = .done reached := by
  constructor
  · intro written
    cases written with
    | cons gives written others =>
        cases others
        cases gives with
        | whole _ => exact written
        | spliced narrowed _ _ _ _ => cases narrowed
  · intro written
    exact .cons (.whole rfl) written (.nil reached)

/-- A field that fails after fields that were written ends the run over the fields. -/
theorem Written.writeFields_eq_of_fails {earlier later : List TargetField} {field : TargetField}
    {left : Node} {label : String} {cause : Cause}
    (written : Written bound value earlier root reached)
    (fails : field.Fails bound value label reached left cause) :
    writeFields bound value label (earlier ++ field :: later) root = ⟨left, some cause⟩ := by
  rw [written.writeFields_append, writeFields, fails.write_eq]

/-- All fields are written, or one of them fails after those before it were written. -/
theorem written_or_fails (bound : Nat) (value : Node) (label : String)
    (fields : List TargetField) (root : Node) :
    (∃ tree, Written bound value fields root tree) ∨
      ∃ earlier field later reached left cause, fields = earlier ++ field :: later ∧
        Written bound value earlier root reached ∧
        field.Fails bound value label reached left cause := by
  induction fields generalizing root with
  | nil => exact .inl ⟨root, .nil root⟩
  | cons first rest inductionHypothesis =>
      rcases first.written_or_fails bound value label root with
        ⟨given, middle, gives, written⟩ | ⟨left, cause, fails⟩
      · rcases inductionHypothesis middle with
          ⟨tree, others⟩ | ⟨earlier, field, later, reached, left, cause, rfl, others, fails⟩
        · exact .inl ⟨tree, .cons gives written others⟩
        · exact .inr ⟨first :: earlier, field, later, reached, left, cause, rfl,
            .cons gives written others, fails⟩
      · exact .inr ⟨[], first, rest, root, left, cause, rfl, .nil root, fails⟩

end Target

end Graft
