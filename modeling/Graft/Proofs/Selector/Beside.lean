/-
This file shows that a write beside the metadata of a resource never changes which matchers accept
the resource.
-/

import Graft.Proofs.Path.Start
import Graft.Proofs.Selector.Metadata

namespace Graft

/-- A path lies beside the metadata when it starts with none of the keys that matchers look at. -/
def Path.BesideMetadata (path : Path) : Prop :=
  ∀ key ∈ Resource.metadataKeys, path.start? ≠ some (.key key)

instance (path : Path) : Decidable path.BesideMetadata :=
  inferInstanceAs (Decidable (∀ key ∈ Resource.metadataKeys, _))

/-- A resource after a write has the metadata from before it if the path lies beside them, also
where the write fails. -/
theorem Resource.sameMetadata_write {path : Path} (beside : path.BesideMetadata)
    (resource : Resource) (value : Node) (bound : Nat) :
    SameMetadata ⟨(resource.root.write path value bound).tree⟩ resource := by
  intro key member
  exact Node.entry?_write (beside key member) resource.root value bound

namespace Matcher

/-- A write at a path beside the metadata changes no answer of a matcher, whether the write
succeeds or fails: a resource that was accepted or refused still is, and one that could not be
checked fails in the same way. -/
theorem accepts_write {path : Path} (beside : path.BesideMetadata) (resource : Resource)
    (value : Node) (bound : Nat) (selected : Matcher) :
    selected.accepts ⟨(resource.root.write path value bound).tree⟩ = selected.accepts resource :=
  accepts_congr (Resource.sameMetadata_write beside resource value bound) selected

/-- A write that fails after a null has become a mapping leaves the fault of malformed labels. -/
theorem accepts_write_malformed :
    let labels : Node := .mapping [("labels", .text "app=web,db")]
    let before : Node := .mapping [("spec", .null), ("metadata", labels)]
    let after : Node := .mapping [("spec", .mapping [("items", .sequence [])]),
      ("metadata", labels)]
    let selector : Selector := { labelSelector := "app" }
    ∃ path failure selected, Path.parse "spec.items[name=app][=x]" = .ok path ∧
      path.BesideMetadata ∧ selector.compile = .ok selected ∧
      before.write path (.text "y") 16 = .failed after failure ∧
      selected.accepts ⟨before⟩ = .error (.invalidLabelSet "app=web,db" (.noPair "db")) ∧
      selected.accepts ⟨after⟩ = .error (.invalidLabelSet "app=web,db" (.noPair "db")) := by
  intro labels before after selector
  let path : Path :=
    ⟨[[.key "spec", .key "items", .predicate "name" "app", .predicate "" "x"]],
      "spec.items[name=app][=x]"⟩
  let selected : Matcher :=
    ⟨none, none, none, none, none, none, none, some ⟨[.present "app"]⟩, selector.text⟩
  have parsed : Path.parse "spec.items[name=app][=x]" = .ok path := by decide +kernel
  have beside : path.BesideMetadata := by decide +kernel
  have compiled : selector.compile = .ok selected := by decide +kernel
  have failed : before.write path (.text "y") 16 =
      .failed after (.noMatch "[name=app]") := by decide +kernel
  have refused : selected.accepts ⟨before⟩ =
      .error (.invalidLabelSet "app=web,db" (.noPair "db")) := by decide +kernel
  have same := accepts_write beside ⟨before⟩ (.text "y") 16 selected
  rw [failed] at same
  exact ⟨path, _, selected, parsed, beside, compiled, failed, refused, same.trans refused⟩

end Matcher

end Graft
