/-
This file shows what the bound on nested documents decides: a read or a write that does not exceed
it is the same under each larger bound, and only a path with more documents exceeds it.
-/

import Graft.Proofs.Path.Cause
import Graft.Proofs.Path.WriteBack

namespace Graft.Node

open Graft.Path (Failure)
open Result (FailsOnly)

variable {bound larger depth : Nat} {node value : Node} {spans : List Span}

/-- A read that does not exceed its bound gives the same under a larger one. -/
theorem readSpans_mono (grows : bound ≤ larger)
    (shallow : FailsOnly Failure.Shallow (node.readSpans bound depth spans)) :
    node.readSpans larger depth spans = node.readSpans bound depth spans := by
  induction spans generalizing node depth with
  | nil => rfl
  | cons span rest inductionHypothesis =>
      by_cases more : rest = []
      · subst more
        rfl
      · rcases Nat.lt_or_ge depth bound with room | deep
        · have largerRoom : depth < larger := Nat.lt_of_lt_of_le room grows
          rw [readSpans_cons room node span more] at shallow ⊢
          rw [readSpans_cons largerRoom node span more]
          exact shallow.bind_congr fun _ inner => inner.bind_congr fun _ inRest =>
            inductionHypothesis inRest
        · rw [readSpans_deep deep node span more] at shallow ⊢
          -- A span that leads nowhere is noticed before the bound is.
          rcases Nat.lt_or_ge depth larger with largerRoom | largerDeep
          · rw [readSpans_cons largerRoom node span more]
            exact shallow.bind_congr fun _ exceeded => absurd rfl (exceeded _ rfl bound)
          · rw [readSpans_deep largerDeep node span more]
            exact shallow.bind_congr fun _ exceeded => absurd rfl (exceeded _ rfl bound)

/-- A write that does not exceed its bound leaves the same under a larger one, whether it succeeds
or not. -/
theorem writeSpans_mono (grows : bound ≤ larger)
    (shallow : FailsOnly Failure.Shallow (node.writeSpans bound depth value spans).result) :
    node.writeSpans larger depth value spans = node.writeSpans bound depth value spans := by
  induction spans generalizing node depth with
  | nil => rfl
  | cons span rest inductionHypothesis =>
      by_cases more : rest = []
      · subst more
        rfl
      · rcases Nat.lt_or_ge depth bound with room | deep
        · have largerRoom : depth < larger := Nat.lt_of_lt_of_le room grows
          rw [writeSpans_cons room node value span more] at shallow ⊢
          rw [writeSpans_cons largerRoom node value span more]
          rw [Edit.result_ofExcept] at shallow
          congr 1
          refine shallow.bind_congr fun (steps, holder) inner => inner.bind_congr fun _ inRest => ?_
          rw [inductionHypothesis fun failure failed => inRest failure (by rw [failed]; rfl)]
        · rw [writeSpans_deep deep node value span more] at shallow
          exact absurd rfl (shallow _ rfl bound)

/-- A read at a path that does not exceed its bound gives the same under a larger one. -/
theorem read_mono {path : Path} (grows : bound ≤ larger)
    (shallow : FailsOnly Failure.Shallow (node.read path bound)) :
    node.read path larger = node.read path bound :=
  readSpans_mono grows shallow

/-- A write at a path that does not exceed its bound leaves the same under a larger one. -/
theorem write_mono {path : Path} (grows : bound ≤ larger)
    (shallow : FailsOnly Failure.Shallow (node.write path value bound).result) :
    node.write path value larger = node.write path value bound :=
  writeSpans_mono grows shallow

/-- A write that starts within the bound and succeeds had room for all its documents. -/
theorem room_of_writeSpans {tree : Node} (start : depth ≤ bound)
    (written : node.writeSpans bound depth value spans = .done tree) :
    depth + (spans.length - 1) ≤ bound := by
  induction spans generalizing node depth tree with
  | nil => cases written
  | cons span rest inductionHypothesis =>
      by_cases more : rest = []
      · subst more
        exact start
      · obtain ⟨room, _, _, _, _, _, _, restWritten, -⟩ :=
          (writeSpans_cons_eq_done_iff more).mp written
        have length : rest.length ≠ 0 := by simpa using more
        have inner := inductionHypothesis room restWritten
        simp only [List.length_cons, Nat.add_sub_cancel]
        omega

/-- A read at a path does not exceed a bound that allows a document for each span after the first. -/
theorem shallow_of_read {path : Path} (short : path.spans.length ≤ bound + 1) :
    FailsOnly Failure.Shallow (node.read path bound) := by
  intro failure failed
  rcases cause_of_readSpans failed with ⟨rfl, -⟩ | ⟨-, shallow⟩ | ⟨-, exceeded⟩
  · nofun
  · exact shallow
  · omega

/-- A write at a path does not exceed a bound that allows a document for each span after the
first. -/
theorem shallow_of_write {path : Path} (short : path.spans.length ≤ bound + 1) :
    FailsOnly Failure.Shallow (node.write path value bound).result := by
  intro failure failed
  rcases cause_of_writeSpans failed with ⟨rfl, -⟩ | ⟨-, shallow⟩ | ⟨-, exceeded⟩
  · nofun
  · exact shallow
  · omega

end Graft.Node
