import Mathlib
import Traversal.Proofs.Sink
import Traversal.Task.Relay

/-!
# What a step of the relay does

The steps of a relay fall into a few kinds, which `Relay.Motion` lists; `motion_of_step` says that there are
no others.  In its loop a relay reads into its buffer, writes from it, and flushes when there is nothing to
write; a fault, the end of the diagnostics or a shutdown takes it out of the loop, and then it only
finishes, reports and lets go of what it holds.  `step_cases` keeps of this what others can tell, and
`sink_of_step` what happens to the sink.
-/

namespace Traversal.Relay

variable {isShutdown : Bool} {r : Relay} {s : Source} {k : Sink}

/-- Whether a relay is in its loop. -/
def isCopying (r : Relay) : Bool :=
  match r.phase with
  | .idle => true
  | .blocked _ => true
  | .toppingUp => true
  | .reading => true
  | .writing => true
  | _ => false

/-- Whether a relay looks for a shutdown before it does anything else. -/
def isWaiting (r : Relay) : Bool :=
  match r.phase with
  | .idle => true
  | .blocked _ => true
  | _ => false

/-- A relay that looks for a shutdown is in its loop. -/
lemma isCopying_of_isWaiting (h : r.isWaiting = true) : r.isCopying = true := by
  unfold isWaiting at h
  unfold isCopying
  split at h <;> simp_all

/-- What a step of a relay does. -/
inductive Motion (isShutdown : Bool) (r : Relay) (s : Source) (k : Sink) (m : Move) : Prop
  /-- The relay turns to something else in its loop, and perhaps takes note of the far side. -/
  | turn (hbefore : r.isCopying = true) (hafter : m.relay.isCopying = true)
      (hshut : r.isWaiting = true → isShutdown = false)
      (hrelay : m.relay = { r with phase := m.relay.phase }) (hstderr : m.stderr = s)
      (hsink : m.sink = k ∨ m.sink = k.calm ∨ k.offer r.buffer = (.pending, m.sink))
      (hact : m.act = .inner)
  /-- Bytes get into the buffer. -/
  | take (bytes : Bytes) (hbefore : r.isCopying = true) (hafter : m.relay.isCopying = true)
      (hread : s.readUpTo r.room = (.chunk bytes, m.stderr)) (hshut : r.isWaiting = false)
      (hrelay : m.relay = { r.take bytes with phase := m.relay.phase, budget := m.relay.budget })
      (hsink : m.sink = k) (hact : m.act = .inner)
  /-- The end of the diagnostics is found. -/
  | finish (hbefore : r.isCopying = true) (hafter : m.relay.isCopying = true)
      (hread : s.readUpTo r.room = (.eof, m.stderr)) (hshut : r.isWaiting = false)
      (hrelay : m.relay = { r with isEnded := true, phase := m.relay.phase }) (hsink : m.sink = k)
      (hact : m.act = .inner)
  /-- Bytes go from the buffer to the sink. -/
  | give (count : Nat) (hbefore : r.isCopying = true)
      (hwrite : k.offer r.buffer = (.taken count, m.sink)) (hshut : r.isWaiting = false)
      (hrelay : m.relay = { r with buffer := r.buffer.drop count, isDirty := true })
      (hstderr : m.stderr = s) (hact : m.act = .inner)
  /-- An interrupted read or write is to be tried again. -/
  | retry (fault : IoFault) (hbefore : r.isCopying = true) (hshut : r.isWaiting = false)
      (hfault : s.readUpTo r.room = (.fault fault, m.stderr) ∧ m.sink = k ∨
        k.offer r.buffer = (.fault fault, m.sink) ∧ m.stderr = s)
      (hrelay : m.relay = { r with budget := m.relay.budget }) (hact : m.act = .inner)
  /-- A fault ends the copying. -/
  | fail (fault : IoFault) (hbefore : r.isCopying = true) (hshut : r.isWaiting = false)
      (hfault : s.readUpTo r.room = (.fault fault, m.stderr) ∧ m.sink = k ∨
        (k.offer r.buffer = (.fault fault, m.sink) ∨ k.offer r.buffer = (.nothing, m.sink)) ∧ m.stderr = s ∨
        k.flush = (some fault, m.sink) ∧ m.stderr = s)
      (hrelay : m.relay = r.fail fault) (hact : m.act = .inner)
  /-- All that has been written is flushed while there is nothing to read. -/
  | flush (hbefore : r.isCopying = true) (hshut : r.isWaiting = false) (hflush : k.flush = (none, m.sink))
      (hrelay : m.relay = { r with isDirty := false, phase := .idle }) (hstderr : m.stderr = s)
      (hact : m.act = .inner)
  /-- Everything up to the end of the diagnostics has been written, and is flushed. -/
  | conclude (hbefore : r.isCopying = true) (hshut : r.isWaiting = false) (hbuffer : r.buffer = [])
      (hended : r.isEnded = true) (hflush : k.flush = (none, m.sink))
      (hrelay : m.relay = { r with isDirty := false, phase := .flushing false }) (hstderr : m.stderr = s)
      (hact : m.act = .inner)
  /-- The session is being shut down. -/
  | stop (hbefore : r.isWaiting = true) (hshut : isShutdown = true)
      (hm : m = { relay := { r with phase := .flushing true }, stderr := s, sink := k })
  /-- The sink is flushed once more. -/
  | settle (isStopped : Bool) (hbefore : r.phase = .flushing isStopped)
      (hm : m =
        { relay := { r with phase := if isStopped then .releasing .sink else .posting none }
          stderr := s
          sink := k.flush.2 })
  /-- The relay reports what it has been about to report. -/
  | post (failure? : Option Failure) (hbefore : r.phase = .posting failure?)
      (hm : m =
        { relay := { r with phase := .releasing .sink }, stderr := s, sink := k, act := .post failure? })
  /-- The relay lets go of something. -/
  | release (hold : Hold) (hbefore : r.phase = .releasing hold)
      (hm : m = { relay := { r with phase := hold.next }, stderr := s, sink := k, act := .release hold })

/-- A fault that is met while reading or writing is passed over, or it ends the copying. -/
lemma motion_of_fault {fault : IoFault} {s' : Source} {k' : Sink} (hbefore : r.isCopying = true)
    (hshut : r.isWaiting = false)
    (hfault : s.readUpTo r.room = (.fault fault, s') ∧ k' = k ∨
      k.offer r.buffer = (.fault fault, k') ∧ s' = s) (budget : Nat) :
    Motion isShutdown r s k
      { relay := if fault.isInterruption then { r with budget } else r.fail fault
        stderr := s'
        sink := k' } := by
  by_cases hinterruption : fault.isInterruption = true
  · rw [if_pos hinterruption]
    exact .retry fault hbefore hshut hfault rfl rfl
  · rw [if_neg hinterruption]
    refine .fail fault hbefore hshut ?_ rfl rfl
    rcases hfault with hread | ⟨hwrite, hstderr⟩
    · exact .inl hread
    · exact .inr (.inl ⟨.inl hwrite, hstderr⟩)

/-- Reading is of one of the kinds, if what comes of it when nothing has arrived is. -/
lemma motion_of_read {next : Phase} {otherwise : Move} (hbefore : r.isCopying = true)
    (hshut : r.isWaiting = false) (hnext : ∀ r' : Relay, r'.phase = next → r'.isCopying = true)
    (hotherwise : Motion isShutdown r s k otherwise) :
    Motion isShutdown r s k (r.read isShutdown s k next otherwise) := by
  unfold read
  split
  · exact hotherwise
  · split
    · next bytes s' hread => exact .take bytes hbefore (hnext _ rfl) hread hshut rfl rfl rfl
    · next s' hread => exact .finish hbefore (hnext _ rfl) hread hshut rfl rfl rfl
    · next fault s' hread => exact motion_of_fault hbefore hshut (.inl ⟨hread, rfl⟩) _
    · exact hotherwise

/-- Writing is of one of the kinds. -/
lemma motion_of_write (hphase : r.phase = .writing) : Motion isShutdown r s k (r.write s k) := by
  have hbefore : r.isCopying = true := by simp [isCopying, hphase]
  have hshut : r.isWaiting = false := by simp [isWaiting, hphase]
  unfold write
  split
  · next count k' hwrite => exact .give count hbefore hwrite hshut rfl rfl rfl
  · next k' hwrite => exact .fail _ hbefore hshut (.inr (.inl ⟨.inr hwrite, rfl⟩)) rfl rfl
  · next fault k' hwrite => exact motion_of_fault hbefore hshut (.inr ⟨hwrite, rfl⟩) r.budget
  · next k' hwrite =>
    refine .turn hbefore ?_ (by simp [hshut]) rfl rfl (.inr (.inr hwrite)) rfl
    by_cases hroom : r.room = 0 <;> simp [hroom, isCopying]

/-- Waiting for more is of one of the kinds. -/
lemma motion_of_rest (hphase : r.phase = .reading) : Motion isShutdown r s k (r.rest s k) := by
  have hbefore : r.isCopying = true := by simp [isCopying, hphase]
  have hshut : r.isWaiting = false := by simp [isWaiting, hphase]
  unfold rest
  split
  · split
    · next k' hflush => exact .flush hbefore hshut hflush rfl rfl rfl
    · next fault k' hflush => exact .fail fault hbefore hshut (.inr (.inr ⟨hflush, rfl⟩)) rfl rfl
  · exact .turn hbefore rfl (by simp [hshut]) rfl rfl (.inl rfl) rfl

/-- Ending the copying is of one of the kinds. -/
lemma motion_of_conclude (hphase : r.phase = .writing) (hbuffer : r.buffer = [])
    (hended : r.isEnded = true) : Motion isShutdown r s k (r.conclude s k) := by
  have hbefore : r.isCopying = true := by simp [isCopying, hphase]
  have hshut : r.isWaiting = false := by simp [isWaiting, hphase]
  unfold conclude
  split
  · next k' hflush => exact .conclude hbefore hshut hbuffer hended hflush rfl rfl rfl
  · next fault k' hflush => exact .fail fault hbefore hshut (.inr (.inr ⟨hflush, rfl⟩)) rfl rfl

/-- Waiting is of one of the kinds. -/
lemma motion_of_wait {m : Move} (hbefore : r.isWaiting = true) (h : r.wait isShutdown s k = some m) :
    Motion isShutdown r s k m := by
  unfold wait at h
  split at h
  · next hshut =>
    cases h
    exact .stop hbefore hshut rfl
  · next hshut =>
    split at h <;> cases h
    exact .turn (isCopying_of_isWaiting hbefore) rfl (fun _ => by simpa using hshut) rfl rfl
      (.inr (.inl rfl)) rfl

/-- Every step of a relay is of one of the kinds. -/
theorem motion_of_step {m : Move} (h : r.step isShutdown s k = some m) : Motion isShutdown r s k m := by
  unfold Relay.step at h
  cases hphase : r.phase with
  | idle => exact motion_of_wait (by simp [isWaiting, hphase]) (by simpa only [hphase] using h)
  | blocked isListening =>
    exact motion_of_wait (by simp [isWaiting, hphase]) (by simpa only [hphase] using h)
  | reading =>
    have hbefore : r.isCopying = true := by simp [isCopying, hphase]
    have hshut : r.isWaiting = false := by simp [isWaiting, hphase]
    have hwriting : Motion isShutdown r s k
        { relay := { r with phase := .writing }, stderr := s, sink := k } :=
      .turn hbefore rfl (by simp [hshut]) rfl rfl (.inl rfl) rfl
    simp only [hphase] at h
    split at h <;> cases h
    · exact hwriting
    · refine motion_of_read hbefore hshut (fun r' hr' => by simp [isCopying, hr']) ?_
      split
      · exact motion_of_rest hphase
      · exact hwriting
  | writing =>
    simp only [hphase] at h
    split at h
    · cases h
      exact motion_of_write hphase
    · next hbuffer =>
      split at h <;> cases h
      · next hended => exact motion_of_conclude hphase (by simpa using hbuffer) hended
      · exact .turn (by simp [isCopying, hphase]) rfl (by simp [isWaiting, hphase]) rfl rfl (.inl rfl) rfl
  | toppingUp =>
    have hbefore : r.isCopying = true := by simp [isCopying, hphase]
    have hshut : r.isWaiting = false := by simp [isWaiting, hphase]
    simp only [hphase, Option.some.injEq] at h
    subst h
    exact motion_of_read hbefore hshut (fun r' hr' => by simp [isCopying, hr'])
      (.turn hbefore rfl (by simp [hshut]) rfl rfl (.inl rfl) rfl)
  | flushing isShutdown =>
    simp only [hphase, Option.some.injEq] at h
    exact .settle isShutdown hphase h.symm
  | posting failure? =>
    simp only [hphase, Option.some.injEq] at h
    exact .post failure? hphase h.symm
  | releasing hold =>
    simp only [hphase, Option.some.injEq] at h
    exact .release hold hphase h.symm
  | done => simp [hphase] at h

/-- Where a relay can get from its loop in a step: it stays there, it is about to report a fault, or it is
about to flush once more. -/
def Continues (isShutdown : Bool) (r r' : Relay) : Prop :=
  r'.isCopying = true ∨ (∃ fault, r'.phase = .posting (some (.relay fault))) ∨
    ∃ isStopped, r'.phase = .flushing isStopped ∧
      (isStopped = true → r.isWaiting = true ∧ isShutdown = true)

/-- In its loop a relay shows nothing to others.  Outside of it, it does one thing after the other. -/
theorem step_cases {m : Move} (h : r.step isShutdown s k = some m) :
    (r.isCopying = true ∧ m.act = .inner ∧ r.Continues isShutdown m.relay) ∨
      (∃ isStopped, r.phase = .flushing isStopped ∧ m =
        { relay := { r with phase := if isStopped then .releasing .sink else .posting none }
          stderr := s
          sink := k.flush.2 }) ∨
      (∃ failure?, r.phase = .posting failure? ∧ m =
        { relay := { r with phase := .releasing .sink }, stderr := s, sink := k, act := .post failure? }) ∨
      ∃ hold, r.phase = .releasing hold ∧
        m = { relay := { r with phase := hold.next }, stderr := s, sink := k, act := .release hold } := by
  cases motion_of_step h with
  | turn hbefore hafter _ _ _ _ hact => exact .inl ⟨hbefore, hact, .inl hafter⟩
  | take _ hbefore hafter _ _ _ _ hact => exact .inl ⟨hbefore, hact, .inl hafter⟩
  | finish hbefore hafter _ _ _ _ hact => exact .inl ⟨hbefore, hact, .inl hafter⟩
  | give _ hbefore _ _ hrelay _ hact => exact .inl ⟨hbefore, hact, .inl (by rw [hrelay]; exact hbefore)⟩
  | retry _ hbefore _ _ hrelay hact => exact .inl ⟨hbefore, hact, .inl (by rw [hrelay]; exact hbefore)⟩
  | fail fault hbefore _ _ hrelay hact =>
    exact .inl ⟨hbefore, hact, .inr (.inl ⟨fault, by rw [hrelay]; rfl⟩)⟩
  | flush hbefore _ _ hrelay _ hact => exact .inl ⟨hbefore, hact, .inl (by rw [hrelay]; rfl)⟩
  | conclude hbefore _ _ _ _ hrelay _ hact =>
    exact .inl ⟨hbefore, hact, .inr (.inr ⟨false, by rw [hrelay], by simp⟩)⟩
  | stop hbefore hshut hm =>
    rw [hm]
    exact .inl ⟨isCopying_of_isWaiting hbefore, rfl, .inr (.inr ⟨true, rfl, fun _ => ⟨hbefore, hshut⟩⟩)⟩
  | settle isStopped hbefore hm => exact .inr (.inl ⟨isStopped, hbefore, hm⟩)
  | post failure? hbefore hm => exact .inr (.inr (.inl ⟨failure?, hbefore, hm⟩))
  | release hold hbefore hm => exact .inr (.inr (.inr ⟨hold, hbefore, hm⟩))

/-- In a step of a relay the sink is left alone, written to once or flushed once. -/
theorem sink_of_step {m : Move} (h : r.step isShutdown s k = some m) :
    m.sink = k ∨ m.sink = k.calm ∨ m.sink = (k.offer r.buffer).2 ∨ m.sink = k.flush.2 := by
  have hwritten : ∀ result, k.offer r.buffer = (result, m.sink) → m.sink = (k.offer r.buffer).2 :=
    fun _ hwrite => by rw [hwrite]
  have hflushed : ∀ fault?, k.flush = (fault?, m.sink) → m.sink = k.flush.2 :=
    fun _ hflush => by rw [hflush]
  cases motion_of_step h with
  | turn _ _ _ _ _ hsink _ => exact hsink.imp_right (Or.imp_right fun hwrite => .inl (hwritten _ hwrite))
  | take _ _ _ _ _ _ hsink _ => exact .inl hsink
  | finish _ _ _ _ _ hsink _ => exact .inl hsink
  | give _ _ hwrite _ _ _ _ => exact .inr (.inr (.inl (hwritten _ hwrite)))
  | retry _ _ _ hfault _ _ =>
    rcases hfault with ⟨-, hsink⟩ | ⟨hwrite, -⟩
    · exact .inl hsink
    · exact .inr (.inr (.inl (hwritten _ hwrite)))
  | fail _ _ _ hfault _ _ =>
    rcases hfault with ⟨-, hsink⟩ | ⟨hwrite | hwrite, -⟩ | ⟨hflush, -⟩
    · exact .inl hsink
    · exact .inr (.inr (.inl (hwritten _ hwrite)))
    · exact .inr (.inr (.inl (hwritten _ hwrite)))
    · exact .inr (.inr (.inr (hflushed _ hflush)))
  | flush _ _ hflush _ _ _ => exact .inr (.inr (.inr (hflushed _ hflush)))
  | conclude _ _ _ _ hflush _ _ _ => exact .inr (.inr (.inr (hflushed _ hflush)))
  | stop _ _ hm => exact .inl (by rw [hm])
  | settle _ _ hm => exact .inr (.inr (.inr (by rw [hm])))
  | post _ _ hm => exact .inl (by rw [hm])
  | release _ _ hm => exact .inl (by rw [hm])

end Traversal.Relay
