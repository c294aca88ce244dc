import Mathlib
import Traversal.Proofs.Sink
import Traversal.Task.Pump

/-!
# What a step of the pump does to the bytes

Seen from the bytes on their way to the engine, the steps of a pump fall into a few kinds, which
`Pump.Motion` lists; `motion_of_step` says that there are no others.  A message gets into the buffer at
one point only, whole and behind everything else, and a message that is given up before that point
leaves no byte behind.
-/

namespace Traversal.Pump

open Record

/-- The message that a pump deals with. -/
def inHand? (p : Pump) : Option Request :=
  match p.phase with
  | .poised request _ _ => some request
  | .pushing request _ => some request
  | .answering request _ => some request
  | _ => none

/-- The message that a pump deals with and that is not in the buffer yet. -/
def unloaded? (p : Pump) : Option Request :=
  match p.phase with
  | .poised request .clearing _ => some request
  | .pushing request .clearing => some request
  | _ => none

/-- The message for which a pump is clearing its buffer. -/
def clearing? (p : Pump) : Option Request :=
  match p.phase with
  | .poised request .clearing true => some request
  | .pushing request .clearing => some request
  | _ => none

/-- The failure that a pump is about to answer with. -/
def failing? (p : Pump) : Option Failure :=
  match p.phase with
  | .answering _ failure? => failure?
  | _ => none

/-- What a step of a pump does to the bytes on their way. -/
inductive Motion (isShutdown : Bool) (first? : Option Request) (p : Pump) (k : Sink) (m : Move) : Prop
  /-- The pump deals with no message. -/
  | rest (hbefore : p.inHand? = none) (hafter : m.pump.inHand? = none) (hact : m.act ≠ .take)
      (hclose : m.act = .release .queue → m.pump.phase = .done)
      (hbuffer : m.pump.buffer = p.buffer) (hstdin : m.stdin = k)
  /-- The first message leaves the queue. -/
  | take (request : Request) (hphase : p.phase = .idle) (hshut : isShutdown = false)
      (hfirst : first? = some request)
      (hm : m = { pump := { p with phase := .poised request .clearing false }, stdin := k, act := .take })
  /-- Bytes go from the buffer to the stream, or nothing moves. -/
  | carry (request : Request) (hbefore : p.inHand? = some request)
      (hafter : m.pump.inHand? = some request) (hact : m.act = .inner)
      (hphase : ∀ stage, m.pump.phase ≠ .poised request stage false)
      (hunloaded : m.pump.unloaded? = p.unloaded?) (hfailing : m.pump.failing? = none)
      (hclearing : m.pump.clearing? = p.clearing? ∨ bound ≤ p.buffer.length ∧
        p.phase = .poised request .clearing false)
      (hbytes : m.stdin.written ++ m.pump.buffer = k.written ++ p.buffer)
  /-- The message gets into the buffer. -/
  | load (request : Request) (hbefore : p.unloaded? = some request)
      (hpump : m.pump = p.load request) (hact : m.act = .inner) (hstdin : m.stdin.written = k.written)
  /-- What becomes of a message that is in the buffer is known. -/
  | settle (request : Request) (hbefore : p.inHand? = some request) (hunloaded : p.unloaded? = none)
      (failure? : Option Failure)
      (hpump : m.pump = { p with phase := .answering request failure? }) (hact : m.act = .inner)
      (hstdin : m.stdin.written = k.written)
  /-- The message is given up while the buffer is being cleared. -/
  | lose (request : Request) (hbefore : p.clearing? = some request) (failure : Failure)
      (hpump : m.pump = { p with phase := .answering request (some failure) }) (hact : m.act = .inner)
      (hstdin : m.stdin.written = k.written)
  /-- The session ends before anything has been done for the message. -/
  | cut (request : Request) (hphase : p.phase = .poised request .clearing false)
      (hshut : isShutdown = true)
      (hm : m =
        { pump := { p with phase := .answering request (some .writeCutOff) }, stdin := k })
  /-- Whoever submitted the message learns what became of it. -/
  | answer (request : Request) (failure? : Option Failure)
      (hphase : p.phase = .answering request failure?)
      (hm : m =
        { pump := { p with phase := .idle }, stdin := k, act := .answer request.ticket failure? })

/-- Turning to the stream puts a message into the buffer or goes on with clearing it. -/
lemma motion_of_turn {p : Pump} {k : Sink} {request : Request} {stage : Stage} {needsRoom : Bool}
    (hphase : p.phase = .poised request stage needsRoom) (isShutdown : Bool)
    (first? : Option Request) :
    Motion isShutdown first? p k { pump := p.turn request stage, stdin := k } := by
  unfold turn
  cases stage with
  | writing =>
    exact .carry request (by simp [inHand?, hphase]) (by simp [inHand?]) rfl (by simp)
      (by simp [unloaded?, hphase]) (by simp [failing?]) (.inl (by simp [clearing?, hphase])) rfl
  | clearing =>
    by_cases hlong : isLong p.buffer = true
    · have hbound : bound ≤ p.buffer.length := by
        simp only [isLong, bound, Bool.not_eq_true', List.isEmpty_eq_false_iff, ne_eq,
          List.drop_eq_nil_iff, not_le] at hlong
        unfold bound
        omega
      have hclearing : ({ p with phase := .pushing request .clearing } : Pump).clearing? =
          p.clearing? ∨ bound ≤ p.buffer.length ∧ p.phase = .poised request .clearing false := by
        cases needsRoom with
        | true => exact .inl (by simp [clearing?, hphase])
        | false => exact .inr ⟨hbound, hphase⟩
      simp only [hlong, Bool.not_true, Bool.and_false, Bool.false_eq_true, if_false]
      exact .carry request (by simp [inHand?, hphase]) (by simp [inHand?]) rfl (by simp)
        (by simp [unloaded?, hphase]) (by simp [failing?]) hclearing rfl
    · simp only [hlong, Bool.not_false, decide_true, Bool.and_self, if_true]
      exact .load request (by simp [unloaded?, hphase]) rfl rfl rfl

/-- A message that is being dealt with and fails is settled or lost. -/
lemma motion_of_fail {p : Pump} {k k' : Sink} {request : Request} {stage : Stage}
    (hphase : p.phase = .pushing request stage) (hstdin : k'.written = k.written) (fault : IoFault)
    (isShutdown : Bool) (first? : Option Request) :
    Motion isShutdown first? p k { pump := p.fail request fault, stdin := k' } := by
  cases stage with
  | writing =>
    exact .settle request (by simp [inHand?, hphase]) (by simp [unloaded?, hphase]) _ rfl rfl hstdin
  | clearing => exact .lose request (by simp [clearing?, hphase]) _ rfl rfl hstdin

/-- Writing from the buffer moves bytes, and an empty buffer lets the message go on. -/
lemma motion_of_push {p : Pump} {k : Sink} {request : Request} {stage : Stage}
    (hphase : p.phase = .pushing request stage) (isShutdown : Bool) (first? : Option Request) :
    Motion isShutdown first? p k (p.push request stage k) := by
  unfold push
  split
  · have hflush := k.written_flush
    split
    · next k' heq =>
      rw [heq] at hflush
      cases stage with
      | writing =>
        exact .settle request (by simp [inHand?, hphase]) (by simp [unloaded?, hphase]) none rfl rfl
          hflush
      | clearing => exact .load request (by simp [unloaded?, hphase]) rfl rfl hflush
    · next fault k' heq =>
      rw [heq] at hflush
      exact motion_of_fail hphase hflush fault isShutdown first?
  · have hwrite := k.written_write p.buffer
    split
    · next n k' heq =>
      rw [heq] at hwrite
      refine .carry request (by simp [inHand?, hphase]) (by simp [inHand?, hphase]) rfl
        (by simp [hphase]) (by simp [unloaded?, hphase]) (by simp [failing?, hphase])
        (.inl (by simp [clearing?, hphase])) ?_
      simp only at hwrite
      rw [hwrite, List.append_assoc, List.take_append_drop]
    · next k' heq =>
      rw [heq] at hwrite
      exact motion_of_fail hphase hwrite _ isShutdown first?
    · next fault k' heq =>
      rw [heq] at hwrite
      exact motion_of_fail hphase hwrite fault isShutdown first?
    · next k' heq =>
      rw [heq] at hwrite
      refine .carry request (by simp [inHand?, hphase]) (by simp [inHand?]) rfl (by simp) ?_
        (by simp [failing?]) (.inl ?_) (by simpa using hwrite)
      · cases stage <;> simp [unloaded?, hphase]
      · cases stage <;> simp [clearing?, hphase]

/-- Every step of a pump is of one of the kinds. -/
theorem motion_of_step {isShutdown hasSenders : Bool} {first? : Option Request} {p : Pump} {k : Sink}
    {m : Move} (h : p.step isShutdown first? hasSenders k = some m) :
    Motion isShutdown first? p k m := by
  unfold Pump.step at h
  cases hphase : p.phase with
  | idle =>
    simp only [hphase] at h
    split at h
    · cases h
      exact .rest (by simp [inHand?, hphase]) (by simp [inHand?]) (by simp) (by simp) rfl rfl
    · next hshut =>
      split at h
      · next request =>
        cases h
        exact .take request hphase (by simpa using hshut) rfl rfl
      · split at h
        · cases h
        · cases h
          exact .rest (by simp [inHand?, hphase]) (by simp [inHand?]) (by simp) (by simp) rfl rfl
  | deaf =>
    simp only [hphase] at h
    split at h <;> cases h
    exact .rest (by simp [inHand?, hphase]) (by simp [inHand?]) (by simp) (by simp) rfl rfl
  | poised request stage needsRoom =>
    simp only [hphase] at h
    split at h
    · next hshut =>
      cases h
      cases stage with
      | writing =>
        exact .settle request (by simp [inHand?, hphase]) (by simp [unloaded?, hphase]) _ rfl rfl rfl
      | clearing =>
        cases needsRoom with
        | false => exact .cut request hphase hshut rfl
        | true => exact .lose request (by simp [clearing?, hphase]) _ rfl rfl rfl
    · split at h <;> cases h
      exact motion_of_turn hphase isShutdown first?
  | pushing request stage =>
    simp only [hphase, Option.some.injEq] at h
    subst h
    exact motion_of_push hphase isShutdown first?
  | answering request failure? =>
    simp only [hphase, Option.some.injEq] at h
    subst h
    exact .answer request failure? hphase rfl
  | releasing hold =>
    simp only [hphase, Option.some.injEq] at h
    subst h
    cases hold <;>
      exact .rest (by simp [inHand?, hphase]) (by simp [inHand?, Hold.next]) (by simp)
        (by simp [Hold.next]) rfl rfl
  | done => simp [hphase] at h

/-- A pump that is done takes no step. -/
lemma phase_ne_done_of_step {isShutdown hasSenders : Bool} {first? : Option Request} {p : Pump}
    {k : Sink} {m : Move} (h : p.step isShutdown first? hasSenders k = some m) : p.phase ≠ .done := by
  intro hdone
  simp [Pump.step, hdone] at h

end Traversal.Pump
