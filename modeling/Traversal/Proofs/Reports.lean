import Mathlib
import Traversal.Proofs.Relay
import Traversal.Proofs.Watcher

/-!
# What the relay and the watcher report

The relay reports faults of streams, and the watcher how the engine ended; neither of them reports
anything about a record of the engine.  What a task reports is what it has been about to report, and the
watcher reports at most once: `Watcher.isSpent` tells whether the time for that is over.
-/

namespace Traversal

namespace Relay

variable {r : Relay} {s : Source} {k : Sink}

/-- Nobody sees the step, and a failure that the relay is about to report after it is the fault of a
stream. -/
def Move.IsQuiet (m : Move) : Prop :=
  m.act = .inner ∧ ∀ failure, m.relay.phase = .posting (some failure) → failure.kind = .io

/-- A step of a relay is quiet, or it reports what the relay has been about to report, or something is
let go. -/
theorem report_of_step {isShutdown : Bool} {m : Move} (h : r.step isShutdown s k = some m) :
    m.IsQuiet ∨
      (∀ failure?, m.relay.phase ≠ .posting failure?) ∧
        ((∃ failure?, m.act = .post failure? ∧ r.phase = .posting failure?) ∨
          ∃ hold, m.act = .release hold) := by
  rcases step_cases h with
    ⟨-, hact, hafter⟩ | ⟨isStopped, -, rfl⟩ | ⟨failure?, hphase, rfl⟩ | ⟨hold, -, rfl⟩
  · refine .inl ⟨hact, fun failure hposting => ?_⟩
    rcases hafter with hcopying | ⟨fault, hfault⟩ | ⟨isStopped, hflushing, -⟩
    · simp [isCopying, hposting] at hcopying
    · obtain rfl : Failure.relay fault = failure := by simpa [hposting, eq_comm] using hfault
      rfl
    · simp [hposting] at hflushing
  · exact .inl ⟨rfl, by cases isStopped <;> simp⟩
  · exact .inr ⟨by simp, .inl ⟨failure?, rfl, hphase⟩⟩
  · exact .inr ⟨by cases hold <;> simp [Hold.next], .inr ⟨hold, rfl⟩⟩

end Relay

namespace Watcher

open Engine

variable {isShutdown prefersShutdown : Bool} {now : Nat} {w : Watcher} {c : Child}

/-- Whether a watcher will not report any more. -/
def isSpent (w : Watcher) : Bool :=
  match w.phase with
  | .releasing _ => true
  | .done => true
  | _ => false

/-- An end of the engine is reported as such. -/
lemma kind_of_exitFailure {result : Except IoFault WaitStatus} {failure : Failure}
    (h : exitFailure? result = some failure) : failure.kind = .exit := by
  unfold exitFailure? at h
  split at h
  · split at h
    · cases h
    · split at h <;> cases h <;> rfl
  · cases h
    rfl

/-- A failure that a watcher is about to report after a step is about the end of the engine.  What it
reports is what it has been about to report, and once it has reported it does not report again. -/
theorem report_of_step {m : Move} (h : w.step isShutdown prefersShutdown now c = some m) :
    (∀ failure, m.watcher.phase = .posting (some failure) → failure.kind = .exit) ∧
      match m.act with
      | .post failure? =>
        w.phase = .posting failure? ∧ w.isSpent = false ∧ m.watcher.isSpent = true
      | _ => m.watcher.isSpent = w.isSpent := by
  cases motion_of_step h with
  | yield hphase _ hm =>
    subst hm
    exact ⟨by simp [yield], by simp [isSpent, yield, hphase]⟩
  | collect status _ hphase hm =>
    subst hm
    have hspent : w.isSpent = false := by
      rcases hphase with hphase | ⟨_, hphase⟩ | hphase <;> simp [isSpent, hphase]
    refine ⟨fun failure hposting => ?_, hspent.symm⟩
    exact kind_of_exitFailure (Phase.posting.inj hposting)
  | giveUp deadline hphase _ _ hm =>
    subst hm
    exact ⟨by simp, by simp [isSpent, hphase]⟩
  | kill hphase hm =>
    subst hm
    exact ⟨by simp, by simp [isSpent, hphase]⟩
  | post failure? hphase hm =>
    subst hm
    exact ⟨by simp, by simp [isSpent, hphase]⟩
  | release hold hphase hm =>
    subst hm
    exact ⟨by cases hold <;> simp [Hold.next], by cases hold <;> simp [isSpent, Hold.next, hphase]⟩

end Watcher
end Traversal
