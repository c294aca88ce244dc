import Mathlib
import Traversal.Proofs.Pump
import Traversal.Proofs.PumpCourse

/-!
# What a pump writes

A `Ledger` goes along with a course of a pump and writes down which messages have been accepted into the
queue, which have been taken from it, and which were lost: those that failed, or were cut off, while the
buffer was being cleared for them.

`Ledger.Books` is the invariant of all courses.  What has been written, what is in the buffer and the
message that is on its way into the buffer are together the records of the messages taken and not lost
(`balanced`); only a shutdown can leave the last of them out, and then nothing follows it (`bounded`).
-/

namespace Traversal

namespace Pump

/-- The message that a pump has taken up between two moments. -/
def taken? (before after : Pump) : Option Request :=
  if before.inHand? = none then after.inHand? else none

/-- The message that a pump has given up between two moments while it was clearing its buffer. -/
def lost? (before after : Pump) : Option Request :=
  if after.failing?.isSome then before.clearing? else none

/-- A message that waits for the buffer to be cleared is not in the buffer. -/
lemma unloaded_of_clearing {p : Pump} {request : Request} (h : p.clearing? = some request) :
    p.unloaded? = some request := by
  unfold clearing? at h
  unfold unloaded?
  split at h <;> simp_all

/-- A message that is not in the buffer yet is the one that the pump deals with. -/
lemma inHand_of_unloaded {p : Pump} {request : Request} (h : p.unloaded? = some request) :
    p.inHand? = some request := by
  unfold unloaded? at h
  unfold inHand?
  split at h <;> simp_all

/-- A pump without a message has none that is still to go into the buffer. -/
lemma unloaded_eq_none {p : Pump} (h : p.inHand? = none) : p.unloaded? = none := by
  refine Option.eq_none_iff_forall_ne_some.mpr fun request hsome => ?_
  rw [inHand_of_unloaded hsome] at h
  cases h

/-- A pump whose message is in the buffer clears the buffer for nothing. -/
lemma clearing_eq_none {p : Pump} (h : p.unloaded? = none) : p.clearing? = none := by
  refine Option.eq_none_iff_forall_ne_some.mpr fun request hsome => ?_
  rw [unloaded_of_clearing hsome] at h
  cases h

/-- A pump that deals with a message takes up none. -/
lemma taken_eq_none {before after : Pump} {request : Request} (h : before.inHand? = some request) :
    taken? before after = none := by
  simp [taken?, h]

/-- A pump that clears its buffer for nothing gives nothing up. -/
lemma lost_eq_none {before after : Pump} (h : before.clearing? = none) :
    lost? before after = none := by
  unfold lost?
  split
  · exact h
  · rfl

/-- A pump takes up nothing, and gives nothing up, while it does not move. -/
@[simp] lemma taken_self (p : Pump) : taken? p p = none := by
  unfold taken?
  split
  · assumption
  · rfl

/-- A pump takes up nothing, and gives nothing up, while it does not move. -/
@[simp] lemma lost_self (p : Pump) : lost? p p = none := by
  unfold lost? failing? clearing?
  cases p.phase <;> simp

end Pump

namespace PumpRig

/-! ### The ledger -/

/-- A message that was given up while the buffer was being cleared for it. -/
structure Loss where
  request : Request
  /-- The length of the buffer when the message was taken from the queue. -/
  backlog : Nat
deriving DecidableEq, Repr

/-- A rig, and what has become of the messages. -/
structure Ledger where
  rig : PumpRig
  /-- The messages that have got into the queue, in order. -/
  accepted : List Request := []
  /-- The messages that have been taken from the queue, in order. -/
  taken : List Request := []
  /-- The length of the buffer when the last of them was taken. -/
  backlog : Nat := 0
  losses : List Loss := []

namespace Ledger

/-- A ledger at the start. -/
def start (capacity : Nat) : Ledger where
  rig := { capacity := capacity }

/-- A ledger after a turn. -/
def turn (l : Ledger) (t : Turn) : Ledger :=
  let rig := l.rig.turn t
  let taken? := Pump.taken? l.rig.pump rig.pump
  { rig := rig
    accepted := l.accepted ++ rig.queue.drop l.rig.queue.length
    taken := l.taken ++ taken?.toList
    backlog := if taken?.isSome then l.rig.pump.buffer.length else l.backlog
    losses :=
      l.losses ++ ((Pump.lost? l.rig.pump rig.pump).map fun request => ⟨request, l.backlog⟩).toList }

/-- A ledger after a course. -/
def course (l : Ledger) (turns : List Turn) : Ledger :=
  turns.foldl turn l

/-- Whether a message was lost. -/
def isLost (l : Ledger) (request : Request) : Bool :=
  l.losses.any (·.request = request)

/-- The messages taken from the queue that were not lost. -/
def kept (l : Ledger) : List Request :=
  l.taken.filter (!l.isLost ·)

/-- The records of messages, one behind the other. -/
def records (requests : List Request) : Bytes :=
  requests.flatMap fun request => Record.encode request.payload

@[simp] lemma records_nil : records [] = [] := rfl

@[simp] lemma records_singleton (request : Request) :
    records [request] = Record.encode request.payload := by
  simp [records]

@[simp] lemma records_append (before after : List Request) :
    records (before ++ after) = records before ++ records after :=
  List.flatMap_append

/-- The rig of a ledger goes its course. -/
lemma rig_course (l : Ledger) (turns : List Turn) : (l.course turns).rig = l.rig.course turns := by
  induction turns generalizing l with
  | nil => rfl
  | cons t turns ih => exact ih (l.turn t)

/-! ### The invariant -/

/-- What holds of a ledger after any course. -/
structure Books (l : Ledger) : Prop where
  fresh : ∀ request ∈ l.accepted, request.ticket < l.rig.nextTicket
  nodup : (l.accepted.map Request.ticket).Nodup
  accepted_eq : l.rig.isQueueClosed = false → l.accepted = l.taken ++ l.rig.queue
  taken_prefix : l.taken <+: l.accepted
  done_of_closed : l.rig.isQueueClosed = true → l.rig.pump.phase = .done
  of_loss : ∀ loss ∈ l.losses, loss.request ∈ l.taken ∧ Pump.bound ≤ loss.backlog
  /-- The message that the pump deals with is the last one taken. -/
  of_inHand : ∀ request, l.rig.pump.inHand? = some request → ∃ before, l.taken = before ++ [request]
  of_unloaded : ∀ request, l.rig.pump.unloaded? = some request → l.isLost request = false
  bound_le_backlog : l.rig.pump.clearing?.isSome = true → Pump.bound ≤ l.backlog
  backlog_eq : ∀ request, l.rig.pump.phase = .poised request .clearing false →
    l.backlog = l.rig.pump.buffer.length
  /-- Every message taken and not lost has its record, unless a shutdown has cut off the last one. -/
  balanced : l.rig.isShutdown = false ∨ l.rig.pump.unloaded?.isSome = true →
    l.rig.stdin.written ++ l.rig.pump.buffer ++ records l.rig.pump.unloaded?.toList = records l.kept
  bounded : l.rig.stdin.written ++ l.rig.pump.buffer <+: records l.kept

variable {l : Ledger}

/-- The invariant holds at the start. -/
lemma books_start (capacity : Nat) : Books (start capacity) where
  fresh := by simp [start]
  nodup := by simp [start]
  accepted_eq := by simp [start]
  taken_prefix := by simp [start]
  done_of_closed := by simp [start]
  of_loss := by simp [start]
  of_inHand := by simp [start, Pump.inHand?]
  of_unloaded := by simp [start, Pump.unloaded?]
  bound_le_backlog := by simp [start, Pump.clearing?]
  backlog_eq := by simp [start]
  balanced := by simp [start, Pump.unloaded?, kept, Sink.written]
  bounded := by simp [start, kept, Sink.written]

/-- A message that was not taken was not lost. -/
lemma Books.isLost_eq_false (h : Books l) {request : Request} (hnew : request ∉ l.taken) :
    l.isLost request = false := by
  unfold isLost
  rw [List.any_eq_false]
  intro loss hloss heq
  exact hnew (of_decide_eq_true heq ▸ (h.of_loss loss hloss).1)

/-- The bytes stay within bounds as long as they are balanced. -/
lemma bounded_of_balanced {bytes more : Bytes} {requests : List Request}
    (h : bytes ++ more = records requests) : bytes <+: records requests :=
  ⟨more, h⟩

/-- A pump that goes on with its message, or is through with it, keeps the invariant. -/
lemma Books.proceed (h : Books l) {p : Pump} {k : Sink} (hrunning : l.rig.pump.phase ≠ .done)
    (hinHand : ∀ request, p.inHand? = some request → l.rig.pump.inHand? = some request)
    (hunloaded : ∀ request, p.unloaded? = some request → l.rig.pump.unloaded? = some request)
    (hclearing : p.clearing?.isSome = true → Pump.bound ≤ l.backlog)
    (hphase : ∀ request, p.phase ≠ .poised request .clearing false)
    (hbalanced : l.rig.isShutdown = false ∨ p.unloaded?.isSome = true →
      k.written ++ p.buffer ++ records p.unloaded?.toList = records l.kept)
    (hbounded : k.written ++ p.buffer <+: records l.kept) :
    Books { l with rig := { l.rig with pump := p, stdin := k } } :=
  { h with
    done_of_closed := fun hclosed => absurd (h.done_of_closed hclosed) hrunning
    of_inHand := fun request hr => h.of_inHand request (hinHand request hr)
    of_unloaded := fun request hr => h.of_unloaded request (hunloaded request hr)
    bound_le_backlog := hclearing
    backlog_eq := fun request hr => absurd hr (hphase request)
    balanced := hbalanced
    bounded := hbounded }

/-- A pump that puts no message into the buffer and drops none keeps the invariant. -/
lemma Books.carry (h : Books l) {p : Pump} {k : Sink} (hrunning : l.rig.pump.phase ≠ .done)
    (hinHand : ∀ request, p.inHand? = some request → l.rig.pump.inHand? = some request)
    (hunloaded : p.unloaded? = l.rig.pump.unloaded?)
    (hclearing : p.clearing?.isSome = true → Pump.bound ≤ l.backlog)
    (hphase : ∀ request, p.phase ≠ .poised request .clearing false)
    (hbytes : k.written ++ p.buffer = l.rig.stdin.written ++ l.rig.pump.buffer) :
    Books { l with rig := { l.rig with pump := p, stdin := k } } :=
  h.proceed hrunning hinHand (fun _ hr => hunloaded ▸ hr) hclearing hphase
    (fun hopen => by
      rw [hbytes, hunloaded]
      exact h.balanced (hunloaded ▸ hopen))
    (hbytes ▸ h.bounded)

/-- What the surroundings see of a pump, unless it takes a message, keeps the invariant. -/
lemma Books.witness (h : Books l) {act : Pump.Act} (hact : act ≠ .take)
    (hclose : act = .release .queue → l.rig.pump.phase = .done) :
    Books { l with rig := l.rig.witness act } := by
  rcases l.rig.witness_cases hact with ⟨replies, isClosed, hsame⟩ | ⟨hrelease, replies, hclosed⟩
  · rw [hsame]
    exact { h with }
  · rw [hclosed]
    exact
      { h with
        accepted_eq := fun hopen => by simp at hopen
        done_of_closed := fun _ => hclose hrelease }

/-- A message that is taken is the next one to go into the buffer. -/
lemma Books.take (h : Books l) {request : Request} (hphase : l.rig.pump.phase = .idle)
    (hshut : l.rig.isShutdown = false) (hfirst : l.rig.queue.head? = some request) :
    Books
      { l with
        rig :=
          { l.rig with
            pump := { l.rig.pump with phase := .poised request .clearing false }
            queue := l.rig.queue.tail }
        taken := l.taken ++ [request]
        backlog := l.rig.pump.buffer.length } := by
  obtain ⟨rest, hqueue⟩ := List.head?_eq_some_iff.mp hfirst
  have hopen : l.rig.isQueueClosed = false := by
    by_contra hclosed
    rw [Bool.not_eq_false] at hclosed
    simp [h.done_of_closed hclosed] at hphase
  have haccepted := h.accepted_eq hopen
  have hnew : request ∉ l.taken := by
    intro hmem
    have hnodup := h.nodup
    rw [haccepted, hqueue, List.map_append, List.map_cons, List.nodup_append] at hnodup
    exact hnodup.2.2 _ (List.mem_map_of_mem hmem) _ (List.mem_cons_self ..) rfl
  have hkept : (l.taken ++ [request]).filter (!l.isLost ·) = l.kept ++ [request] := by
    simp [kept, h.isLost_eq_false hnew]
  have hbalanced := h.balanced (.inl hshut)
  rw [show l.rig.pump.unloaded? = none by simp [Pump.unloaded?, hphase], Option.toList_none,
    records_nil, List.append_nil] at hbalanced
  have hafter : l.rig.stdin.written ++ l.rig.pump.buffer ++ records [request] =
      records (l.kept ++ [request]) := by
    rw [hbalanced, records_append]
  exact
    { fresh := h.fresh
      nodup := h.nodup
      accepted_eq := fun _ => by
        rw [haccepted, hqueue, List.tail_cons, List.append_assoc, List.singleton_append]
      taken_prefix := by
        rw [haccepted, hqueue]
        exact ⟨rest, by simp⟩
      done_of_closed := fun hclosed => by simp [hopen] at hclosed
      of_loss := fun loss hloss =>
        ⟨List.mem_append_left _ (h.of_loss loss hloss).1, (h.of_loss loss hloss).2⟩
      of_inHand := fun r hr => by
        obtain rfl : request = r := by simpa [Pump.inHand?] using hr
        exact ⟨l.taken, rfl⟩
      of_unloaded := fun r hr => by
        obtain rfl : request = r := by simpa [Pump.unloaded?] using hr
        exact h.isLost_eq_false hnew
      bound_le_backlog := fun hclearing => by simp [Pump.clearing?] at hclearing
      backlog_eq := fun _ _ => rfl
      balanced := fun _ => hafter.trans (congrArg records hkept.symm)
      bounded := (bounded_of_balanced hafter).trans (by rw [← hkept]; exact List.prefix_rfl) }

/-- Losing the last message taken takes it, and no other, from the messages that are kept. -/
lemma Books.kept_eq_append (h : Books l) (loss : Loss)
    (hunloaded : l.rig.pump.unloaded? = some loss.request) :
    l.kept = { l with losses := l.losses ++ [loss] }.kept ++ [loss.request] := by
  obtain ⟨before, htaken⟩ := h.of_inHand _ (Pump.inHand_of_unloaded hunloaded)
  have hbefore : loss.request ∉ before := by
    intro hmem
    have hnodup := h.nodup.sublist (h.taken_prefix.sublist.map _)
    rw [htaken, List.map_append, List.nodup_append] at hnodup
    exact hnodup.2.2 _ (List.mem_map_of_mem hmem) _ (List.mem_cons_self ..) rfl
  have hlast : l.isLost loss.request = false := h.of_unloaded _ hunloaded
  have hlost : { l with losses := l.losses ++ [loss] }.isLost loss.request = true := by
    simp [isLost]
  have hsame : ∀ request ∈ before,
      { l with losses := l.losses ++ [loss] }.isLost request = l.isLost request := by
    intro request hmem
    have hne : loss.request ≠ request := fun heq => hbefore (heq ▸ hmem)
    simp [isLost, hne]
  unfold kept
  rw [htaken] at hlost hsame ⊢
  simp only [List.filter_append, List.filter_cons, hlast, hlost, List.filter_nil, Bool.not_true,
    Bool.not_false, Bool.false_eq_true, if_true, if_false, List.append_nil]
  rw [List.filter_congr fun request hmem => congrArg (!·) (hsame request hmem)]

/-- A message that is lost leaves no byte behind. -/
lemma Books.lose (h : Books l) {request : Request} {k : Sink} (failure : Failure)
    (hrunning : l.rig.pump.phase ≠ .done) (hclearing : l.rig.pump.clearing? = some request)
    (hwritten : k.written = l.rig.stdin.written) :
    Books
      { l with
        rig :=
          { l.rig with
            pump := { l.rig.pump with phase := .answering request (some failure) }
            stdin := k }
        losses := l.losses ++ [⟨request, l.backlog⟩] } := by
  have hunloaded := Pump.unloaded_of_clearing hclearing
  obtain ⟨before, htaken⟩ := h.of_inHand request (Pump.inHand_of_unloaded hunloaded)
  have hbalanced := h.balanced (.inr (by rw [hunloaded]; rfl))
  rw [hunloaded, h.kept_eq_append ⟨request, l.backlog⟩ hunloaded, records_append, Option.toList_some,
    List.append_cancel_right_eq, ← hwritten] at hbalanced
  exact
    { h with
      done_of_closed := fun hclosed => absurd (h.done_of_closed hclosed) hrunning
      of_loss := fun loss hloss => by
        rcases List.mem_append.mp hloss with hold | hnew
        · exact h.of_loss loss hold
        · obtain rfl : loss = ⟨request, l.backlog⟩ := by simpa using hnew
          exact ⟨by simp [htaken], h.bound_le_backlog (by rw [hclearing]; rfl)⟩
      of_inHand := fun r hr => by
        obtain rfl : request = r := by simpa [Pump.inHand?] using hr
        exact ⟨before, htaken⟩
      of_unloaded := fun r hr => by simp [Pump.unloaded?] at hr
      bound_le_backlog := fun hc => by simp [Pump.clearing?] at hc
      backlog_eq := fun r hr => by simp at hr
      balanced := fun _ => (List.append_nil _).trans hbalanced
      bounded := bounded_of_balanced ((List.append_nil _).trans hbalanced) }

@[simp] lemma pump_witness (rig : PumpRig) (act : Pump.Act) : (rig.witness act).pump = rig.pump := by
  by_cases hact : act = .take
  · rw [hact]
    rfl
  · rcases rig.witness_cases hact with ⟨_, _, h⟩ | ⟨-, _, h⟩ <;> rw [h]

/-- No message gets into the queue by what others see of a pump. -/
lemma queue_witness (rig : PumpRig) (act : Pump.Act) :
    (rig.witness act).queue.drop rig.queue.length = [] := by
  refine List.drop_eq_nil_of_le ?_
  by_cases hact : act = .take
  · rw [hact]
    exact (List.tail_sublist rig.queue).length_le
  · rcases rig.witness_cases hact with ⟨_, _, h⟩ | ⟨-, _, h⟩ <;> simp [h]

/-- A ledger after a step of the pump. -/
lemma turn_of_step {m : Pump.Move} (hstep : l.rig.pump.step l.rig.isShutdown l.rig.queue.head?
      l.rig.hasSenders l.rig.stdin = some m) :
    l.turn .pump =
      { rig := { l.rig with pump := m.pump, stdin := m.stdin }.witness m.act
        accepted := l.accepted
        taken := l.taken ++ (Pump.taken? l.rig.pump m.pump).toList
        backlog :=
          if (Pump.taken? l.rig.pump m.pump).isSome then l.rig.pump.buffer.length else l.backlog
        losses :=
          l.losses ++
            ((Pump.lost? l.rig.pump m.pump).map fun request => ⟨request, l.backlog⟩).toList } := by
  have hqueue := queue_witness { l.rig with pump := m.pump, stdin := m.stdin } m.act
  simp only at hqueue
  simp [turn, PumpRig.turn, PumpRig.step, hstep, hqueue]

/-- A ledger after a step in which no message is taken and none is lost. -/
lemma turn_of_quiet {m : Pump.Move} (hstep : l.rig.pump.step l.rig.isShutdown l.rig.queue.head?
      l.rig.hasSenders l.rig.stdin = some m) (htaken : Pump.taken? l.rig.pump m.pump = none)
    (hlost : Pump.lost? l.rig.pump m.pump = none) :
    l.turn .pump = { l with rig := { l.rig with pump := m.pump, stdin := m.stdin }.witness m.act } := by
  rw [turn_of_step hstep, htaken, hlost]
  simp

/-- A step of the pump keeps the invariant. -/
lemma Books.step (h : Books l) {m : Pump.Move}
    (hstep : l.rig.pump.step l.rig.isShutdown l.rig.queue.head? l.rig.hasSenders l.rig.stdin =
      some m) : Books (l.turn .pump) := by
  have hrunning := Pump.phase_ne_done_of_step hstep
  cases Pump.motion_of_step hstep with
  | rest hbefore hafter hact hclose hbuffer hstdin =>
    have hunloaded := Pump.unloaded_eq_none hbefore
    have hunloaded' := Pump.unloaded_eq_none hafter
    rw [turn_of_quiet hstep (by simp [Pump.taken?, hafter])
      (Pump.lost_eq_none (Pump.clearing_eq_none hunloaded))]
    have hcarry : Books { l with rig := { l.rig with pump := m.pump, stdin := m.stdin } } :=
      h.carry hrunning (by simp [hafter]) (hunloaded'.trans hunloaded.symm)
        (by simp [Pump.clearing_eq_none hunloaded'])
        (fun request hp => by simp [Pump.inHand?, hp] at hafter) (by rw [hbuffer, hstdin])
    exact hcarry.witness hact hclose
  | take request hphase hshut hfirst hm =>
    subst hm
    have hbefore : l.rig.pump.inHand? = none := by simp [Pump.inHand?, hphase]
    have htaken : Pump.taken? l.rig.pump
        { l.rig.pump with phase := .poised request .clearing false } = some request := if_pos hbefore
    rw [turn_of_step hstep, htaken,
      Pump.lost_eq_none (Pump.clearing_eq_none (Pump.unloaded_eq_none hbefore))]
    simpa [PumpRig.witness] using h.take hphase hshut hfirst
  | carry request hbefore hafter hact hphase hunloaded hfailing hclearing hbytes =>
    rw [turn_of_quiet hstep (Pump.taken_eq_none hbefore) (by simp [Pump.lost?, hfailing]), hact]
    refine h.carry hrunning (fun r hr => ?_) hunloaded (fun hsome => ?_) (fun r hr => ?_) hbytes
    · rw [hbefore, ← hafter]
      exact hr
    · rcases hclearing with hsame | ⟨hbound, hpoised⟩
      · exact h.bound_le_backlog (hsame ▸ hsome)
      · rw [h.backlog_eq request hpoised]
        exact hbound
    · obtain rfl : r = request := by simpa [Pump.inHand?, hr] using hafter
      exact hphase .clearing hr
  | load request hbefore hpump hact hstdin =>
    have hinHand := Pump.inHand_of_unloaded hbefore
    rw [turn_of_quiet hstep (Pump.taken_eq_none hinHand)
      (by simp [Pump.lost?, Pump.failing?, hpump, Pump.load]), hact, hpump]
    have hbalanced := h.balanced (.inr (by rw [hbefore]; rfl))
    rw [hbefore, Option.toList_some, records_singleton, List.append_assoc, ← hstdin] at hbalanced
    refine h.proceed hrunning (fun r hr => ?_) (by simp [Pump.unloaded?, Pump.load])
      (by simp [Pump.clearing?, Pump.load]) (by simp [Pump.load])
      (fun _ => (List.append_nil _).trans hbalanced)
      (bounded_of_balanced ((List.append_nil _).trans hbalanced))
    obtain rfl : request = r := by simpa [Pump.inHand?, Pump.load] using hr
    exact hinHand
  | settle request hbefore hunloaded failure? hpump hact hstdin =>
    rw [turn_of_quiet hstep (Pump.taken_eq_none hbefore)
      (Pump.lost_eq_none (Pump.clearing_eq_none hunloaded)), hact, hpump]
    refine h.carry hrunning (fun r hr => ?_) (by rw [hunloaded]; rfl) (by simp [Pump.clearing?])
      (by simp) (by rw [hstdin])
    obtain rfl : request = r := by simpa [Pump.inHand?] using hr
    exact hbefore
  | lose request hbefore failure hpump hact hstdin =>
    have hinHand := Pump.inHand_of_unloaded (Pump.unloaded_of_clearing hbefore)
    rw [turn_of_step hstep, Pump.taken_eq_none hinHand, hact, hpump]
    have hlose := h.lose failure hrunning hbefore hstdin
    simpa [Pump.lost?, Pump.failing?, hbefore, PumpRig.witness] using hlose
  | cut request hphase hshut hm =>
    subst hm
    have hinHand : l.rig.pump.inHand? = some request := by simp [Pump.inHand?, hphase]
    rw [turn_of_quiet hstep (Pump.taken_eq_none hinHand)
      (Pump.lost_eq_none (by simp [Pump.clearing?, hphase]))]
    refine h.proceed hrunning (fun r hr => ?_) (by simp [Pump.unloaded?]) (by simp [Pump.clearing?])
      (by simp) (fun hopen => by simp [hshut, Pump.unloaded?] at hopen) h.bounded
    obtain rfl : request = r := by simpa [Pump.inHand?] using hr
    exact hinHand
  | answer request failure? hphase hm =>
    subst hm
    have hinHand : l.rig.pump.inHand? = some request := by simp [Pump.inHand?, hphase]
    have hunloaded : l.rig.pump.unloaded? = none := by simp [Pump.unloaded?, hphase]
    rw [turn_of_quiet hstep (Pump.taken_eq_none hinHand)
      (Pump.lost_eq_none (Pump.clearing_eq_none hunloaded))]
    have hcarry : Books { l with rig := { l.rig with pump := { l.rig.pump with phase := .idle } } } :=
      h.carry hrunning (by simp [Pump.inHand?]) (by rw [hunloaded]; rfl) (by simp [Pump.clearing?])
        (by simp) rfl
    exact hcarry.witness (by simp) (by simp)

/-- What happens around a pump keeps the invariant. -/
lemma Books.apply (h : Books l) (e : Event) : Books (l.turn (.event e)) := by
  cases e with
  | submit payload isForgotten =>
    rcases l.rig.submit_cases payload isForgotten with ⟨replies, hsame⟩ | ⟨hopen, forgotten, hqueue⟩
    · have hturn : l.turn (.event (.submit payload isForgotten)) =
          { l with
            rig := { l.rig with nextTicket := l.rig.nextTicket + 1, replies := replies } } := by
        simp [turn, PumpRig.turn, PumpRig.apply, hsame]
      rw [hturn]
      exact { h with fresh := fun request hr => Nat.lt_succ_of_lt (h.fresh request hr) }
    · have hturn : l.turn (.event (.submit payload isForgotten)) =
          { l with
            rig :=
              { l.rig with
                nextTicket := l.rig.nextTicket + 1
                queue := l.rig.queue ++ [⟨l.rig.nextTicket, payload⟩]
                forgotten := forgotten }
            accepted := l.accepted ++ [⟨l.rig.nextTicket, payload⟩] } := by
        simp [turn, PumpRig.turn, PumpRig.apply, hqueue]
      rw [hturn]
      refine
        { h with
          fresh := fun request hr => ?_
          nodup := ?_
          accepted_eq := fun _ => by rw [h.accepted_eq hopen, List.append_assoc]
          taken_prefix := h.taken_prefix.trans (List.prefix_append ..) }
      · rcases List.mem_append.mp hr with hold | hnew
        · exact Nat.lt_succ_of_lt (h.fresh request hold)
        · obtain rfl : request = ⟨l.rig.nextTicket, payload⟩ := by simpa using hnew
          exact Nat.lt_succ_self _
      · rw [List.map_append]
        refine List.nodup_append.mpr ⟨h.nodup, by simp, fun old hold new hnew => ?_⟩
        obtain ⟨request, hr, rfl⟩ := List.mem_map.mp hold
        obtain rfl : new = l.rig.nextTicket := by simpa using hnew
        exact (h.fresh request hr).ne
  | sink e =>
    have hturn : l.turn (.event (.sink e)) =
        { l with rig := { l.rig with stdin := l.rig.stdin.apply e } } := by
      simp [turn, PumpRig.turn, PumpRig.apply]
    rw [hturn]
    exact
      { h with
        balanced := fun hopen => by
          rw [Sink.written_apply]
          exact h.balanced hopen
        bounded := by
          rw [Sink.written_apply]
          exact h.bounded }
  | dropSender =>
    have hturn : l.turn (.event .dropSender) =
        { l with rig := { l.rig with hasSenders := false } } := by
      simp [turn, PumpRig.turn, PumpRig.apply]
    rw [hturn]
    exact { h with }
  | shutdown =>
    have hturn : l.turn (.event .shutdown) =
        { l with rig := { l.rig with isShutdown := true } } := by
      simp [turn, PumpRig.turn, PumpRig.apply]
    rw [hturn]
    exact { h with
      balanced := fun hopen => h.balanced (.inr (hopen.resolve_left (by simp))) }

/-- A turn keeps the invariant. -/
lemma Books.turn (h : Books l) (t : Turn) : Books (l.turn t) := by
  cases t with
  | event e => exact h.apply e
  | pump =>
    cases hstep : l.rig.pump.step l.rig.isShutdown l.rig.queue.head? l.rig.hasSenders l.rig.stdin with
    | none =>
      have hturn : l.turn .pump = l := by
        simp [Ledger.turn, PumpRig.turn, PumpRig.step, hstep]
      rw [hturn]
      exact h
    | some m => exact h.step hstep
  | desert ticket =>
    have hturn : l.turn (.desert ticket) =
        { l with rig := { l.rig with forgotten := ticket :: l.rig.forgotten } } := by
      simp [Ledger.turn, PumpRig.turn]
    rw [hturn]
    exact { h with }

/-- The invariant holds after every course. -/
theorem books_course (capacity : Nat) (turns : List Turn) : Books ((start capacity).course turns) := by
  induction turns using List.reverseRecOn with
  | nil => exact books_start capacity
  | append_singleton turns t ih =>
    rw [course, List.foldl_append]
    exact ih.turn t

end Ledger

/-! ### The bytes -/

/-- Whatever happens around a pump, and whenever it has its turns, what it has written is at any moment
the front of the records of the messages that it has taken, in the order of the queue, but for those that
were lost; a message is lost only when the buffer was long before it.  Who waits for a reply makes no
difference to what is written. -/
theorem written_prefix_records_kept (capacity : Nat) (turns : List Turn) :
    let l := (Ledger.start capacity).course turns
    l.rig = PumpRig.course { capacity := capacity } turns ∧
      l.rig.stdin.written <+: Ledger.records l.kept ∧ l.taken <+: l.accepted ∧
      (l.rig.isQueueClosed = false → l.accepted = l.taken ++ l.rig.queue) ∧
      (l.accepted.map Request.ticket).Nodup ∧
      (∀ loss ∈ l.losses, loss.request ∈ l.taken ∧ Pump.bound ≤ loss.backlog) ∧
      ∀ turns', turns'.filterMap Turn.plain? = turns.filterMap Turn.plain? →
        ((Ledger.start capacity).course turns').rig.stdin.written = l.rig.stdin.written := by
  intro l
  have hbooks : l.Books := Ledger.books_course capacity turns
  refine ⟨Ledger.rig_course _ turns, (List.prefix_append ..).trans hbooks.bounded,
    hbooks.taken_prefix, hbooks.accepted_eq, hbooks.nodup, hbooks.of_loss, fun turns' hturns' => ?_⟩
  have hplain : ((Ledger.start capacity).course turns').rig.plain = l.rig.plain := by
    rw [Ledger.rig_course, Ledger.rig_course, plain_course, plain_course _ turns, hturns']
  have hstdin : ((Ledger.start capacity).course turns').rig.plain.stdin = l.rig.plain.stdin := by
    rw [hplain]
  exact congrArg Sink.written hstdin

/-- Three messages, of which the first is long and fails when it is to be written, and the second fails
while the buffer is being cleared for it: the third follows the first at once. -/
theorem written_of_lost_message :
    let fault : Event := .sink (.writeFault (.fails (.described "broken")) 0)
    let turns : List Turn :=
      [.event fault, .event fault, .event (.submit (List.replicate 8191 97) false),
        .event (.submit [98] false), .event (.submit [99] true)] ++ List.replicate 16 .pump
    let l := (Ledger.start 3).course turns
    l.losses.map (fun loss => loss.request.payload) = [[98]] ∧
      l.rig.stdin.written.drop 8190 = [97, 10, 99, 10] ∧
      l.rig.stdin.written <+: Ledger.records l.kept := by
  intro fault turns l
  exact ⟨by decide +kernel, by decide +kernel, (written_prefix_records_kept 3 turns).2.1⟩

end PumpRig
end Traversal
