import Mathlib
import Traversal.Stream.Sink

/-!
# What a sink has written

The bytes in a sink only grow, at their end, and only by a write.  `written_write` is the one lemma about
writes that the tasks need: the sink takes as many bytes from the front of the offer as it says, and
none if it says nothing of the kind.  `written_offer` says the same of a write that is tried again when it is
interrupted.  `IsCounted` says that the sink counts them correctly.
-/

namespace Traversal.Sink

/-- The bytes that the next write takes are the front of the offer. -/
lemma portion_eq_take (s : Sink) (bytes : Bytes) :
    s.portion bytes = bytes.take (s.portion bytes).length := by
  unfold portion
  split
  · rw [List.take_length]
  · next n _ =>
    rw [List.length_take, List.take_eq_take_iff]
    omega

/-- An accepted portion comes behind all that has been written. -/
lemma written_accept (s : Sink) (bytes : Bytes) : (s.accept bytes).written = s.written ++ bytes := by
  simp [written, accept, List.reverseAux_eq]

/-- What happens at the far side writes nothing. -/
@[simp] lemma written_apply (s : Sink) (event : SinkEvent) : (s.apply event).written = s.written := by
  cases event <;> rfl

/-- Flushing writes nothing. -/
@[simp] lemma written_flush (s : Sink) : s.flush.2.written = s.written := by
  unfold flush
  split <;> rfl

/-- A write adds what it says it has taken from the front of the offer, and nothing else. -/
theorem written_write (s : Sink) (bytes : Bytes) :
    (s.write bytes).2.written =
      match (s.write bytes).1 with
      | .taken n => s.written ++ bytes.take n
      | _ => s.written := by
  unfold write
  split
  · rfl
  · split
    · rfl
    · rfl
    · split
      · simp
      · split
        · rfl
        · next hportion =>
          rw [written_accept]
          exact congrArg _ (s.portion_eq_take bytes)

/-- Nor does an offer add anything else, however often it is interrupted. -/
theorem written_offer (s : Sink) (bytes : Bytes) :
    (s.offer bytes).2.written =
      match (s.offer bytes).1 with
      | .taken n => s.written ++ bytes.take n
      | _ => s.written :=
  s.uninterrupted.written_write bytes

/-- A flush covers all that has been written, or it uses up a fault. -/
lemma flush_cases (s : Sink) :
    s.flush = (none, { s with flushed := s.count }) ∨
      ∃ fault rest, s.flushFaults = fault :: rest ∧
        s.flush = (some fault, { s with flushFaults := rest }) := by
  cases hfaults : s.flushFaults with
  | nil => exact .inl (by simp [flush, hfaults])
  | cons fault rest => exact .inr ⟨fault, rest, rfl, by simp [flush, hfaults]⟩

/-- A write flushes nothing, and leaves all but the next write as it is. -/
lemma kept_write (s : Sink) (bytes : Bytes) :
    (s.write bytes).2.flushed = s.flushed ∧ (s.write bytes).2.flushFaults = s.flushFaults ∧
      (s.write bytes).2.broken = s.broken := by
  unfold write
  split
  · exact ⟨rfl, rfl, rfl⟩
  · split
    · exact ⟨rfl, rfl, rfl⟩
    · exact ⟨rfl, rfl, rfl⟩
    · split
      · exact ⟨rfl, rfl, rfl⟩
      · split <;> exact ⟨rfl, rfl, rfl⟩

/-- Nor does an offer. -/
lemma kept_offer (s : Sink) (bytes : Bytes) :
    (s.offer bytes).2.flushed = s.flushed ∧ (s.offer bytes).2.flushFaults = s.flushFaults ∧
      (s.offer bytes).2.broken = s.broken :=
  s.uninterrupted.kept_write bytes

/-- A write that takes something of an offer takes at least one byte. -/
lemma pos_of_write {s : Sink} {bytes : Bytes} {n : Nat} (hbytes : bytes ≠ [])
    (h : (s.write bytes).1 = .taken n) : 0 < n := by
  unfold write at h
  split at h
  · cases h
  · split at h
    · cases h
    · cases h
    · split at h
      · next hempty => exact absurd (List.isEmpty_iff.mp hempty) hbytes
      · split at h
        · cases h
        · next hportion =>
          cases h
          exact List.length_pos_iff.mpr hportion

/-- A write does not stir a sink. -/
lemma isStirred_of_write {s : Sink} {bytes : Bytes} (h : (s.write bytes).2.isStirred = true) :
    s.isStirred = true := by
  unfold write at h
  split at h
  · exact h
  · split at h
    · exact h
    · exact h
    · split at h
      · exact h
      · split at h
        · cases h
        · exact h

/-- The far side of a sink does not interrupt every write for ever. -/
def IsResponsive (s : Sink) : Prop :=
  ∀ fault, s.broken = some fault → fault.isInterruption = false

/-- An offer to such a sink is not interrupted in the end. -/
lemma IsResponsive.isInterruption_eq_false {s : Sink} (h : s.IsResponsive) {bytes : Bytes} {fault : IoFault}
    (hwrite : (s.offer bytes).1 = .fault fault) : fault.isInterruption = false := by
  unfold offer write at hwrite
  split at hwrite
  · next reason hbroken =>
    cases hwrite
    exact h _ hbroken
  · split at hwrite
    · next reason hdue =>
      cases hwrite
      -- The first fault that has not been passed over is not due, or is no interruption.
      have hfirst := List.head?_dropWhile_not
        (fun due : Nat × WriteFault => due.1 ≤ s.count && due.2.isInterruption) s.faults
      unfold dueFault at hdue
      split at hdue
      · next position first rest hfaults =>
        rw [show s.faults.dropWhile _ = (position, first) :: rest from hfaults] at hfirst
        split at hdue
        · next hle =>
          cases hdue
          simpa [WriteFault.isInterruption, show position ≤ s.count from hle] using hfirst
        · cases hdue
      · cases hdue
    · cases hwrite
    · split at hwrite
      · cases hwrite
      · split at hwrite <;> cases hwrite

/-- The number of bytes written is noted correctly. -/
def IsCounted (s : Sink) : Prop :=
  s.count = s.written.length

/-- A sink counts on when something happens at the far side. -/
lemma IsCounted.apply {s : Sink} (h : s.IsCounted) (event : SinkEvent) : (s.apply event).IsCounted := by
  cases event <;> exact h

/-- A sink counts on when it is flushed. -/
lemma IsCounted.flush {s : Sink} (h : s.IsCounted) : s.flush.2.IsCounted := by
  unfold Sink.flush
  split <;> exact h

/-- A sink counts on when it is written to. -/
lemma IsCounted.write {s : Sink} (h : s.IsCounted) (bytes : Bytes) : (s.write bytes).2.IsCounted := by
  unfold Sink.write
  split
  · exact h
  · split
    · exact h
    · exact h
    · split
      · exact h
      · split
        · exact h
        · unfold IsCounted at h ⊢
          rw [written_accept, List.length_append, ← h]
          rfl

/-- A sink counts on when bytes are offered to it. -/
lemma IsCounted.offer {s : Sink} (h : s.IsCounted) (bytes : Bytes) : (s.offer bytes).2.IsCounted :=
  IsCounted.write (s := s.uninterrupted) h bytes

/-- After a successful flush, all that has been written is flushed. -/
lemma IsCounted.flushed_eq {s : Sink} (h : s.IsCounted) (hflush : s.flush.1 = none) :
    s.flush.2.flushed = s.flush.2.written.length := by
  rw [written_flush, ← h]
  unfold Sink.flush at hflush ⊢
  split at hflush
  · cases hflush
  · rfl

end Traversal.Sink
