import Mathlib
import Traversal.Proofs.Pump

/-!
# What a pump answers

`Pump.Honest` is the invariant that makes the answers of a pump true: the record of the message that
it writes ends the bytes which have been written or are in the buffer, and it answers that the message
has been written only when the buffer is empty and all has been flushed.

`fits_of_step` says what a step has to do with the message in hand that shows something to others, and
`waits_of_step` what a pump that can do nothing waits for.
-/

namespace Traversal.Pump

open Record

/-! ### True answers -/

/-- The message whose record a pump writes. -/
def writing? (p : Pump) : Option Request :=
  match p.phase with
  | .poised request .writing _ => some request
  | .pushing request .writing => some request
  | _ => none

/-- What a pump is about to answer is true. -/
structure Honest (isShutdown : Bool) (p : Pump) (k : Sink) : Prop where
  counted : k.IsCounted
  /-- The record of the message is the last one, and some of it may be in the buffer. -/
  of_writing : ∀ request, p.writing? = some request →
    encode request.payload <:+ k.written ++ p.buffer
  /-- A message that has been written is the last one in the stream, and nothing is held up. -/
  of_success : ∀ request, p.phase = .answering request none →
    encode request.payload <:+ k.written ∧ p.buffer = [] ∧ k.flushed = k.written.length
  of_failure : ∀ request failure, p.phase = .answering request (some failure) →
    failure = .writeCutOff ∧ isShutdown = true ∨ ∃ fault, failure = .writeFailed fault

variable {isShutdown hasSenders : Bool} {first? : Option Request} {p : Pump} {k : Sink}

/-- A pump that neither writes nor answers is honest. -/
lemma Honest.of_quiet (hcounted : k.IsCounted) (hwriting : p.writing? = none)
    (hphase : ∀ request failure?, p.phase ≠ .answering request failure?) : Honest isShutdown p k where
  counted := hcounted
  of_writing request h := by simp [hwriting] at h
  of_success request h := absurd h (hphase request none)
  of_failure request failure h := absurd h (hphase request (some failure))

/-- A pump that has just put the record into the buffer is honest. -/
lemma Honest.load (hcounted : k.IsCounted) (request : Request) :
    Honest isShutdown (p.load request) k where
  counted := hcounted
  of_writing r hr := by
    obtain rfl : request = r := by simpa [writing?, Pump.load] using hr
    exact ⟨k.written ++ p.buffer, by simp [Pump.load]⟩
  of_success r hr := by simp [Pump.load] at hr
  of_failure r failure hr := by simp [Pump.load] at hr

/-- A pump that gives a message up says so. -/
lemma Honest.fail (hcounted : k.IsCounted) (request : Request) (fault : IoFault) :
    Honest isShutdown (p.fail request fault) k where
  counted := hcounted
  of_writing r hr := by simp [writing?, Pump.fail] at hr
  of_success r hr := by simp [Pump.fail] at hr
  of_failure r failure hr := by
    obtain ⟨-, rfl⟩ : request = r ∧ Failure.writeFailed fault = failure := by
      simpa [Pump.fail] using hr
    exact .inr ⟨fault, rfl⟩

/-- Writing from the buffer keeps a pump honest. -/
lemma Honest.push (h : Honest isShutdown p k) {request : Request} {stage : Stage}
    (hphase : p.phase = .pushing request stage) :
    Honest isShutdown (p.push request stage k).pump (p.push request stage k).stdin := by
  unfold Pump.push
  split
  · next hempty =>
    have hempty : p.buffer = [] := List.isEmpty_iff.mp hempty
    have hcounted := h.counted.flush
    have hwritten := k.written_flush
    split
    · next k' heq =>
      have hflushed := h.counted.flushed_eq (by rw [heq])
      rw [heq] at hcounted hwritten hflushed
      cases stage with
      | clearing => exact .load hcounted request
      | writing =>
        have hlast := h.of_writing request (by simp [writing?, hphase])
        rw [hempty, List.append_nil] at hlast
        exact
          { counted := hcounted
            of_writing := fun r hr => by simp [writing?, Pump.advance] at hr
            of_success := fun r hr => by
              obtain rfl : request = r := by simpa [Pump.advance] using hr
              exact ⟨hwritten ▸ hlast, hempty, hflushed⟩
            of_failure := fun r failure hr => by simp [Pump.advance] at hr }
    · next fault k' heq =>
      rw [heq] at hcounted
      exact .fail hcounted request fault
  · have hcounted := h.counted.write p.buffer
    have hwritten := k.written_write p.buffer
    split
    · next n k' heq =>
      rw [heq] at hcounted hwritten
      exact
        { counted := hcounted
          of_writing := fun r hr => by
            rw [hwritten, List.append_assoc, List.take_append_drop]
            exact h.of_writing r hr
          of_success := fun r hr => by simp [hphase] at hr
          of_failure := fun r failure hr => by simp [hphase] at hr }
    · next k' heq =>
      rw [heq] at hcounted
      exact .fail hcounted request _
    · next fault k' heq =>
      rw [heq] at hcounted
      exact .fail hcounted request fault
    · next k' heq =>
      rw [heq] at hcounted hwritten
      exact
        { counted := hcounted
          of_writing := fun r hr => by
            rw [hwritten]
            refine h.of_writing r (hr ▸ ?_)
            cases stage <;> simp [writing?, hphase]
          of_success := fun r hr => by simp at hr
          of_failure := fun r failure hr => by simp at hr }

/-- What happens at the far side of the stream keeps a pump honest. -/
lemma Honest.apply (h : Honest isShutdown p k) (event : SinkEvent) :
    Honest isShutdown p (k.apply event) where
  counted := h.counted.apply event
  of_writing request hr := by
    rw [Sink.written_apply]
    exact h.of_writing request hr
  of_success request hr := by
    rw [Sink.written_apply]
    cases event <;> exact h.of_success request hr
  of_failure := h.of_failure

/-- A shutdown keeps a pump honest. -/
lemma Honest.shutdown (h : Honest isShutdown p k) : Honest true p k :=
  { h with
    of_failure := fun request failure hr =>
      (h.of_failure request failure hr).imp_left fun hcut => ⟨hcut.1, rfl⟩ }

/-- A step keeps a pump honest. -/
theorem Honest.step (h : Honest isShutdown p k) {m : Move}
    (hstep : p.step isShutdown first? hasSenders k = some m) : Honest isShutdown m.pump m.stdin := by
  have hquiet : ∀ phase, ({ p with phase := phase } : Pump).writing? = none →
      (∀ request failure?, phase ≠ .answering request failure?) →
      Honest isShutdown { p with phase := phase } k :=
    fun _ => .of_quiet h.counted
  unfold Pump.step at hstep
  cases hphase : p.phase with
  | idle =>
    simp only [hphase] at hstep
    split at hstep
    · cases hstep
      exact hquiet _ rfl (by simp)
    · split at hstep
      · cases hstep
        exact hquiet _ rfl (by simp)
      · split at hstep <;> cases hstep
        exact hquiet _ rfl (by simp)
  | deaf =>
    simp only [hphase] at hstep
    split at hstep <;> cases hstep
    exact hquiet _ rfl (by simp)
  | poised request stage needsRoom =>
    simp only [hphase] at hstep
    split at hstep
    · next hshut =>
      cases hstep
      exact
        { counted := h.counted
          of_writing := fun r hr => by simp [writing?] at hr
          of_success := fun r hr => by simp at hr
          of_failure := fun r failure hr => by
            obtain ⟨-, rfl⟩ : request = r ∧ Failure.writeCutOff = failure := by simpa using hr
            exact .inl ⟨rfl, hshut⟩ }
    · split at hstep <;> cases hstep
      unfold turn
      split
      · exact .load h.counted request
      · exact
          { counted := h.counted
            of_writing := fun r hr => by
              refine h.of_writing r (hr ▸ ?_)
              cases stage <;> simp [writing?, hphase]
            of_success := fun r hr => by simp at hr
            of_failure := fun r failure hr => by simp at hr }
  | pushing request stage =>
    simp only [hphase, Option.some.injEq] at hstep
    subst hstep
    exact h.push hphase
  | answering request failure? =>
    simp only [hphase, Option.some.injEq] at hstep
    subst hstep
    exact hquiet _ rfl (by simp)
  | releasing hold =>
    simp only [hphase, Option.some.injEq] at hstep
    subst hstep
    cases hold <;> exact hquiet _ rfl (by simp [Hold.next])
  | done => simp [hphase] at hstep

/-! ### What a step has to do with the message in hand -/

/-- What a step means for the message in hand that shows this to others. -/
def Act.fits (act : Act) (isShutdown : Bool) (first? : Option Request) (hasSenders : Bool)
    (before after : Pump) : Prop :=
  match act with
  | .inner =>
    after.inHand? = before.inHand? ∧ after.phase ≠ .done ∧
      (after.phase = .deaf → first? = none ∧ hasSenders = false)
  | .take =>
    before.phase = .idle ∧ isShutdown = false ∧
      ∃ request, first? = some request ∧ after.phase = .poised request .clearing false
  | .answer ticket failure? =>
    ∃ request, request.ticket = ticket ∧ before.phase = .answering request failure? ∧
      after.phase = .idle
  | .release .stdin => before.phase = .releasing .stdin ∧ after.phase = .releasing .queue
  | .release .queue => before.phase = .releasing .queue ∧ after.phase = .done

/-- A pump that writes keeps its message in hand. -/
lemma inHand_of_push {request : Request} {stage : Stage} (hphase : p.phase = .pushing request stage) :
    (p.push request stage k).pump.inHand? = some request ∧ (p.push request stage k).act = .inner := by
  unfold push
  split
  · split
    · cases stage <;> exact ⟨rfl, rfl⟩
    · exact ⟨rfl, rfl⟩
  · split
    · exact ⟨by simp [inHand?, hphase], rfl⟩
    · exact ⟨rfl, rfl⟩
    · exact ⟨rfl, rfl⟩
    · exact ⟨rfl, rfl⟩

/-- What a step shows to others fits what becomes of the message in hand. -/
theorem fits_of_step {m : Move} (h : p.step isShutdown first? hasSenders k = some m) :
    m.act.fits isShutdown first? hasSenders p m.pump := by
  have hkeep : ∀ {request}, p.inHand? = some request → m.pump.inHand? = some request →
      m.act = .inner → m.act.fits isShutdown first? hasSenders p m.pump := by
    intro request hbefore hafter hact
    rw [hact]
    refine ⟨hafter.trans hbefore.symm, fun hdone => ?_, fun hdeaf => ?_⟩
    · simp [inHand?, hdone] at hafter
    · simp [inHand?, hdeaf] at hafter
  unfold Pump.step at h
  cases hphase : p.phase with
  | idle =>
    simp only [hphase] at h
    split at h
    · cases h
      simp [Act.fits, inHand?, hphase]
    · next hshut =>
      split at h
      · next request =>
        cases h
        exact ⟨hphase, by simpa using hshut, request, rfl, rfl⟩
      · split at h
        · cases h
        · next hsenders =>
          cases h
          simpa [Act.fits, inHand?, hphase] using hsenders
  | deaf =>
    simp only [hphase] at h
    split at h <;> cases h
    simp [Act.fits, inHand?, hphase]
  | poised request stage needsRoom =>
    simp only [hphase] at h
    have hbefore : p.inHand? = some request := by simp [inHand?, hphase]
    split at h
    · cases h
      exact hkeep hbefore rfl rfl
    · split at h <;> cases h
      refine hkeep hbefore ?_ rfl
      unfold turn
      split <;> rfl
  | pushing request stage =>
    simp only [hphase, Option.some.injEq] at h
    subst h
    obtain ⟨hafter, hact⟩ := inHand_of_push (k := k) hphase
    exact hkeep (by simp [inHand?, hphase]) hafter hact
  | answering request failure? =>
    simp only [hphase, Option.some.injEq] at h
    subst h
    exact ⟨request, rfl, hphase, rfl⟩
  | releasing hold =>
    simp only [hphase, Option.some.injEq] at h
    subst h
    cases hold <;> exact ⟨hphase, rfl⟩
  | done => simp [hphase] at h

/-- Whether a pump lets go of what it holds, or has done so. -/
def isLeaving (p : Pump) : Bool :=
  match p.phase with
  | .releasing _ => true
  | .done => true
  | _ => false

/-- A pump that leaves has no message in hand. -/
lemma inHand_of_leaving (h : p.isLeaving = true) : p.inHand? = none := by
  unfold isLeaving at h
  split at h
  · next hphase => simp [inHand?, hphase]
  · next hphase => simp [inHand?, hphase]
  · cases h

/-- A pump begins to leave when it has been told to stop, and then lets go of one thing after the other. -/
lemma leaves_of_step {m : Move} (h : p.step isShutdown first? hasSenders k = some m)
    (hafter : m.pump.isLeaving = true) :
    isShutdown = true ∧ m.pump.phase = .releasing .stdin ∨
      ∃ hold, p.phase = .releasing hold ∧ m.pump.phase = hold.next ∧ m.act = .release hold := by
  have hnothing : m.pump.inHand? = none := inHand_of_leaving hafter
  unfold Pump.step at h
  cases hphase : p.phase with
  | idle =>
    simp only [hphase] at h
    split at h
    · next hshut =>
      cases h
      exact .inl ⟨hshut, rfl⟩
    · split at h
      · cases h
        cases hnothing
      · split at h <;> cases h
        cases hafter
  | deaf =>
    simp only [hphase] at h
    split at h <;> cases h
    next hshut => exact .inl ⟨hshut, rfl⟩
  | poised request stage needsRoom =>
    simp only [hphase] at h
    split at h
    · cases h
      cases hnothing
    · split at h <;> cases h
      rw [show (p.turn request stage).inHand? = some request by unfold turn; split <;> rfl] at hnothing
      cases hnothing
  | pushing request stage =>
    simp only [hphase, Option.some.injEq] at h
    subst h
    rw [(inHand_of_push hphase).1] at hnothing
    cases hnothing
  | answering request failure? =>
    simp only [hphase, Option.some.injEq] at h
    subst h
    cases hafter
  | releasing hold =>
    simp only [hphase, Option.some.injEq] at h
    subst h
    exact .inr ⟨hold, rfl, rfl, rfl⟩
  | done => simp [hphase] at h

/-- A pump that can do nothing waits for a message, for the end or for room, or is done. -/
lemma waits_of_step (h : p.step isShutdown first? hasSenders k = none) :
    p.phase = .idle ∧ first? = none ∨ p.phase = .deaf ∨
      (∃ request stage, p.phase = .poised request stage true ∧ k.isReady = false) ∨ p.phase = .done := by
  unfold Pump.step at h
  cases hphase : p.phase with
  | idle =>
    simp only [hphase] at h
    split at h
    · cases h
    · split at h
      · cases h
      · exact .inl ⟨rfl, rfl⟩
  | deaf => exact .inr (.inl rfl)
  | poised request stage needsRoom =>
    simp only [hphase] at h
    split at h
    · cases h
    · split at h
      · cases h
      · next hwaits =>
        obtain ⟨rfl, hready⟩ : needsRoom = true ∧ k.isReady = false := by simpa using hwaits
        exact .inr (.inr (.inl ⟨request, stage, rfl, hready⟩))
  | pushing request stage => simp [hphase] at h
  | answering request failure? => simp [hphase] at h
  | releasing hold => simp [hphase] at h
  | done => exact .inr (.inr (.inr rfl))

end Traversal.Pump
