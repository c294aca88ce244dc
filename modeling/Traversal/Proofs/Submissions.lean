import Mathlib
import Traversal.Proofs.Mailbox

/-!
# What becomes of submitted messages when a session ends

`Mailbox.InOrder` is the invariant of a mailbox next to its pump.  Each number that has been given out
belongs to one message, and that message is resolved, in the hand of the pump, in the queue, or waiting
for room (`tickets`).  What is known of the resolved ones was told by the pump, or it is that the session
has come to its end (`of_resolved`).  Every operation keeps the invariant, and so does every turn of a
session (`accounted_run`).

A session is through when it is over and its pump, if there is one, has come to its end.  Then the mailbox
is closed and nothing is pending, so that all messages are resolved (`resolved_of_through`), and later ones
are refused at once.
-/

namespace Traversal

namespace Mailbox

open scoped List

/-! ### The invariant of a mailbox -/

/-- What holds of a mailbox when the pump has these messages in hand and has given these answers. -/
structure InOrder (name : String) (capacity : Nat) (inHand : List Nat)
    (answered : List (Nat × Option Failure)) (m : Mailbox) : Prop where
  session_eq : m.session = name
  capacity_eq : m.capacity = capacity
  /-- No message gets lost, and none is there twice. -/
  tickets : (m.settled ++ inHand ++ m.pending).Perm (List.range m.nextTicket)
  queue_le : m.queue.length ≤ m.capacity
  pending_of_closed : m.isClosed = true → m.queue = [] ∧ m.waiting = []
  /-- What has become of a message is an answer of the pump, or the session has ended. -/
  of_resolved : ∀ entry ∈ m.resolved, entry ∈ answered ∨
    entry.2 = some (.notAccepting name) ∨ entry.2 = some (.endedUnwritten name)
  resolved_of_answer : ∀ entry ∈ answered, entry ∈ m.resolved
  /-- The pump does not answer that a message cannot be accepted. -/
  of_answer : ∀ entry ∈ answered, entry.2 ≠ some (.notAccepting name)
  closed_of_refusal : ∀ ticket, (ticket, some (.notAccepting name)) ∈ m.resolved → m.isClosed = true

variable {name : String} {capacity : Nat} {inHand : List Nat}
  {answered : List (Nat × Option Failure)} {m : Mailbox}

/-- A mailbox without messages. -/
lemma inOrder_empty (name : String) (capacity : Nat) :
    InOrder name capacity [] [] { session := name, capacity := capacity } where
  session_eq := rfl
  capacity_eq := rfl
  tickets := .refl _
  queue_le := Nat.zero_le _
  pending_of_closed := fun _ => ⟨rfl, rfl⟩
  of_resolved := by simp
  resolved_of_answer := by simp
  of_answer := by simp
  closed_of_refusal := by simp

/-- The messages that have been resolved are different ones. -/
lemma InOrder.nodup (h : InOrder name capacity inHand answered m) : m.settled.Nodup := by
  have hall := h.tickets.nodup_iff.mpr List.nodup_range
  rw [List.append_assoc] at hall
  exact hall.of_append_left

/-- What has become of a message can be looked up. -/
lemma InOrder.outcome_eq (h : InOrder name capacity inHand answered m) {entry : Nat × Option Failure}
    (hmem : entry ∈ m.resolved) : m.outcome? entry.1 = some entry.2 :=
  Mailbox.outcome_eq h.nodup hmem

/-- Nothing has become yet of a message that the pump has in hand or that is pending. -/
lemma InOrder.outcome_eq_none (h : InOrder name capacity inHand answered m) {ticket : Nat}
    (hmem : ticket ∈ inHand ++ m.pending) : m.outcome? ticket = none := by
  have hall := h.tickets.nodup_iff.mpr List.nodup_range
  rw [List.append_assoc, List.nodup_append] at hall
  refine List.lookup_eq_none_iff.mpr fun entry hentry => ?_
  have hne : entry.1 ≠ ticket := hall.2.2 _ (List.mem_map_of_mem hentry) _ hmem
  simpa using Ne.symm hne

/-- A message that is submitted is pending or resolved at once. -/
lemma InOrder.submit (h : InOrder name capacity inHand answered m) (payload : Bytes) :
    InOrder name capacity inHand answered (m.submit payload) := by
  have hnext : (m.nextTicket :: (m.settled ++ inHand ++ m.pending)).Perm
      (List.range (m.nextTicket + 1)) := by
    rw [List.range_succ]
    exact (h.tickets.cons _).trans (List.perm_append_singleton _ _).symm
  have hpending : ∀ pending, pending.Perm (m.nextTicket :: m.pending) →
      (m.settled ++ inHand ++ pending).Perm (List.range (m.nextTicket + 1)) := by
    intro pending hperm
    exact ((hperm.append_left _).trans List.perm_middle).trans hnext
  rcases m.submit_cases payload with ⟨hclosed, hm⟩ | ⟨hopen, hroom, hm⟩ | ⟨hopen, hm⟩
  · rw [hm]
    exact
      { h with
        tickets := hnext
        of_resolved := fun entry hentry => by
          rcases List.mem_cons.mp hentry with rfl | hold
          · exact .inr (.inl (by rw [h.session_eq]))
          · exact h.of_resolved entry hold
        resolved_of_answer := fun entry hentry => List.mem_cons_of_mem _ (h.resolved_of_answer entry hentry)
        closed_of_refusal := fun _ _ => hclosed }
  · rw [hm]
    refine
      { h with
        tickets := hpending _ ?_
        queue_le := by simpa using hroom
        pending_of_closed := fun hclosed => absurd (hopen.symm.trans hclosed) (by simp) }
    simp only [pending, List.map_append, List.map_cons, List.map_nil, List.append_assoc]
    exact List.perm_middle
  · rw [hm]
    refine
      { h with
        tickets := hpending _ ?_
        pending_of_closed := fun hclosed => absurd (hopen.symm.trans hclosed) (by simp) }
    simp only [pending, ← List.append_assoc, List.map_append, List.map_cons, List.map_nil]
    exact List.perm_append_singleton _ _

/-- A message that is taken is in hand. -/
lemma InOrder.take (h : InOrder name capacity [] answered m) {request : Request}
    (hfirst : m.queue.head? = some request) :
    InOrder name capacity [request.ticket] answered m.take := by
  have hopen : m.isClosed ≠ true := fun hclosed => by
    rw [(h.pending_of_closed hclosed).1] at hfirst
    cases hfirst
  exact
    { h with
      tickets := by
        have htickets := h.tickets
        rw [pending_take hfirst, List.append_nil] at htickets
        rw [List.append_assoc]
        exact htickets
      queue_le := (length_queue_take hfirst).trans h.queue_le
      pending_of_closed := fun hclosed => absurd hclosed hopen }

/-- The message in hand is answered. -/
lemma InOrder.resolve {ticket : Nat} (h : InOrder name capacity [ticket] answered m)
    {failure? : Option Failure} (hfailure : failure? ≠ some (.notAccepting name)) :
    InOrder name capacity [] (answered ++ [(ticket, failure?)]) (m.resolve ticket failure?) :=
  { h with
    tickets := by
      have htickets := h.tickets
      rw [List.append_assoc] at htickets
      rw [List.append_nil]
      exact List.perm_middle.symm.trans htickets
    of_resolved := fun entry hentry => by
      rcases List.mem_cons.mp hentry with rfl | hold
      · exact .inl (by simp)
      · exact (h.of_resolved entry hold).imp_left (List.mem_append_left _)
    resolved_of_answer := fun entry hentry => by
      rcases List.mem_append.mp hentry with hold | hnew
      · exact List.mem_cons_of_mem _ (h.resolved_of_answer entry hold)
      · exact List.mem_cons.mpr (.inl (List.mem_singleton.mp hnew))
    of_answer := fun entry hentry => by
      rcases List.mem_append.mp hentry with hold | hnew
      · exact h.of_answer entry hold
      · rw [List.mem_singleton.mp hnew]
        exact hfailure
    closed_of_refusal := fun t ht => by
      rcases List.mem_cons.mp ht with heq | hold
      · exact absurd (Prod.mk.inj heq).2.symm hfailure
      · exact h.closed_of_refusal t hold }

/-- When the queue goes away, all messages that are pending are resolved. -/
lemma InOrder.close (h : InOrder name capacity inHand answered m) :
    InOrder name capacity inHand answered m.close := by
  rw [close_eq]
  refine
    { h with
      tickets := ?_
      queue_le := Nat.zero_le _
      pending_of_closed := fun _ => ⟨rfl, rfl⟩
      of_resolved := fun entry hentry => ?_
      resolved_of_answer := fun entry hentry =>
        List.mem_append_right _ (List.mem_append_right _ (h.resolved_of_answer entry hentry))
      closed_of_refusal := fun _ _ => rfl }
  · refine List.Perm.trans ?_ h.tickets
    simp only [settled, pending, List.map_append, List.map_reverse, List.map_map, Function.comp_def,
      List.append_nil, List.map_nil]
    -- The messages given up come to the front, those of the queue first.
    calc (m.queue.map Request.ticket).reverse ++
          ((m.waiting.map Request.ticket).reverse ++ m.settled) ++ inHand
        = (m.queue.map Request.ticket).reverse ++
          (m.waiting.map Request.ticket).reverse ++ (m.settled ++ inHand) := by simp
      _ ~ (m.queue.map Request.ticket ++ m.waiting.map Request.ticket ++ (m.settled ++ inHand)) :=
          ((List.reverse_perm _).append (List.reverse_perm _)).append_right _
      _ ~ (m.settled ++ inHand ++ (m.queue.map Request.ticket ++ m.waiting.map Request.ticket)) :=
          List.perm_append_comm
  · simp only [List.mem_append, List.mem_reverse, List.mem_map] at hentry
    rcases hentry with ⟨request, -, rfl⟩ | ⟨request, -, rfl⟩ | hold
    · exact .inr (.inr (by rw [h.session_eq]))
    · exact .inr (.inl (by rw [h.session_eq]))
    · exact h.of_resolved entry hold

/-- Who can submit messages does not matter. -/
lemma InOrder.handles (h : InOrder name capacity inHand answered m) (handles : Nat) :
    InOrder name capacity inHand answered { m with handles := handles } :=
  { h with }

end Mailbox

namespace Session

/-! ### What the pump answers in a course -/

/-- What the pump answers in a turn, and to whom. -/
def answer? (s : Session) : Turn → Option (Nat × Option Failure)
  | .pump =>
    match s.pump.phase with
    | .answering request failure? => some (request.ticket, failure?)
    | _ => none
  | _ => none

/-- What the pump answers in a course, in order. -/
def answers (s : Session) : List Turn → List (Nat × Option Failure)
  | [] => []
  | t :: turns =>
    match s.step t with
    | none => []
    | some s' => (s.answer? t).toList ++ s'.answers turns

/-- What is answered in a last turn comes behind all other answers. -/
lemma answers_concat {s s₁ s' : Session} {turns : List Turn} {t : Turn} (hrun : s.run turns = some s₁)
    (hstep : s₁.step t = some s') :
    s.answers (turns ++ [t]) = s.answers turns ++ (s₁.answer? t).toList := by
  induction turns generalizing s with
  | nil =>
    cases hrun
    simp [answers, hstep]
  | cons first turns ih =>
    obtain ⟨s₀, hfirst, hrest⟩ := Option.bind_eq_some_iff.mp hrun
    simp only [List.cons_append, answers, hfirst]
    rw [ih hrest, List.append_assoc]

/-! ### The invariant of a session -/

variable {name : String} {capacity : Nat} {answered : List (Nat × Option Failure)} {s s' : Session}

/-- Whether a session is over and its pump, if it has been started, has come to its end. -/
def isThrough (s : Session) : Bool :=
  match s.stage with
  | .ready => false
  | .started => s.pump.isDone
  | .discarded => true
  | .refused _ => true

/-- What holds of the messages of a session in whose course the pump has given these answers. -/
structure Accounted (name : String) (capacity : Nat) (answered : List (Nat × Option Failure))
    (s : Session) : Prop where
  inOrder : s.mailbox.InOrder name capacity (s.pump.inHand?.toList.map Request.ticket) answered
  honest : s.pump.Honest s.isShutdown s.stdin
  idle_of_unstarted : s.stage ≠ .started → s.pump.phase = .idle
  closed_of_through : s.isThrough = true → s.mailbox.isClosed = true

/-- The invariant holds at the start. -/
lemma accounted_create (name : String) (config : Config) :
    Accounted name config.inboundQueueSize [] (create name config) where
  inOrder := Mailbox.inOrder_empty name config.inboundQueueSize
  honest := .of_quiet rfl rfl (by simp [create])
  idle_of_unstarted := fun _ => rfl
  closed_of_through := by simp [isThrough, create]

/-- Whatever happens around a session keeps the invariant. -/
lemma Accounted.meet (h : Accounted name capacity answered s) {e : Event} (hmeet : s.meet e = some s') :
    Accounted name capacity answered s' := by
  obtain ⟨hpump, -⟩ := pump_of_meet hmeet
  have hhonest := honest_of_step (t := .world e) hmeet h.honest
  have horder := h.inOrder
  rcases mailbox_of_meet hmeet with ⟨handles, hmailbox, hstage⟩ | ⟨payload, -, hmailbox, hstage⟩ |
    ⟨hready, -, -, hmailbox⟩
  · refine ⟨?_, hhonest, fun hnot => ?_, fun hthrough => ?_⟩
    · rw [hmailbox, hpump]
      exact horder.handles handles
    · rw [hpump]
      refine h.idle_of_unstarted fun hstarted => ?_
      rcases hstage with hsame | ⟨hready, -⟩
      · exact hnot (hsame.trans hstarted)
      · rw [hready] at hstarted
        cases hstarted
    · rw [hmailbox]
      refine h.closed_of_through ?_
      rcases hstage with hsame | ⟨hready, hstarted⟩
      · simpa only [isThrough, hsame, hpump] using hthrough
      · -- A pump that has just been started is not done.
        have hidle := h.idle_of_unstarted (by simp [hready])
        simp [isThrough, hstarted, hpump, Pump.isDone, hidle] at hthrough
  · refine ⟨?_, hhonest, fun hnot => ?_, fun hthrough => ?_⟩
    · rw [hmailbox, hpump]
      exact horder.submit payload
    · rw [hpump]
      exact h.idle_of_unstarted (hstage ▸ hnot)
    · have hclosed := h.closed_of_through (by simpa only [isThrough, hstage, hpump] using hthrough)
      rw [hmailbox, Mailbox.submit_of_isClosed hclosed]
      exact hclosed
  · refine ⟨?_, hhonest, fun _ => ?_, fun _ => ?_⟩
    · rw [hmailbox, hpump]
      exact (horder.handles _).close
    · rw [hpump]
      exact h.idle_of_unstarted (by simp [hready])
    · rw [hmailbox, Mailbox.close_eq]

/-- A step of the pump keeps the invariant, with what it answers. -/
lemma Accounted.pump (h : Accounted name capacity answered s) (hstage : s.stage = .started)
    (hstep : s.stepPump = some s') :
    Accounted name capacity (answered ++ (s.answer? .pump).toList) s' := by
  obtain ⟨⟨pump, stdin, act⟩, hmove, hpump, -, hmailbox, hstage', -⟩ := mailbox_of_stepPump hstep
  have hhonest := honest_of_step (t := .pump) (by simpa [step, hstage] using hstep) h.honest
  have hfits := Pump.fits_of_step hmove
  have horder := h.inOrder
  have hstarted : s'.stage = .started := hstage'.trans hstage
  have hbase : ∀ {m : Mailbox} {answered'}, s'.mailbox = m →
      m.InOrder name capacity (pump.inHand?.toList.map Request.ticket) answered' →
      (pump.phase = .done → m.isClosed = true) → Accounted name capacity answered' s' := by
    intro m answered' hm hinOrder hdone
    refine ⟨?_, hhonest, fun hnot => absurd hstarted hnot, fun hthrough => ?_⟩
    · rw [hm, hpump]
      exact hinOrder
    · rw [hm]
      exact hdone (by simpa [isThrough, hstarted, hpump, Pump.isDone] using hthrough)
  cases act with
  | inner =>
    obtain ⟨hinHand, hmoving, -⟩ := hfits
    have hquiet : s.answer? .pump = none := by
      cases hphase : s.pump.phase with
      | answering request failure? => simp [Pump.step, hphase] at hmove
      | _ => simp [answer?, hphase]
    rw [hquiet, Option.toList_none, List.append_nil]
    exact hbase hmailbox (by rw [hinHand]; exact horder) fun hdone => absurd hdone hmoving
  | take =>
    obtain ⟨hidle, -, request, hfirst, hafter⟩ := hfits
    have hquiet : s.answer? .pump = none := by simp [answer?, hidle]
    have hnothing : s.pump.inHand? = none := by simp [Pump.inHand?, hidle]
    have hinHand : pump.inHand? = some request := by
      rw [Pump.inHand?, show pump.phase = _ from hafter]
    rw [hquiet, Option.toList_none, List.append_nil]
    rw [hnothing] at horder
    refine hbase hmailbox ?_ fun hdone => ?_
    · rw [hinHand]
      exact horder.take hfirst
    · rw [show pump.phase = _ from hafter] at hdone
      cases hdone
  | answer ticket failure? =>
    obtain ⟨request, rfl, hbefore, hafter⟩ := hfits
    have hanswer : s.answer? .pump = some (request.ticket, failure?) := by simp [answer?, hbefore]
    have hinHand : s.pump.inHand? = some request := by simp [Pump.inHand?, hbefore]
    have hnothing : pump.inHand? = none := by rw [Pump.inHand?, show pump.phase = _ from hafter]
    have htold : failure? ≠ some (.notAccepting name) := by
      rintro rfl
      rcases h.honest.of_failure request _ hbefore with ⟨hcut, -⟩ | ⟨fault, hfault⟩
      · cases hcut
      · cases hfault
    rw [hanswer, Option.toList_some]
    rw [hinHand] at horder
    refine hbase hmailbox ?_ fun hdone => ?_
    · rw [hnothing]
      exact horder.resolve htold
    · rw [show pump.phase = _ from hafter] at hdone
      cases hdone
  | release hold =>
    have hquiet : s.answer? .pump = none ∧ s.pump.inHand? = none ∧ pump.inHand? = none := by
      cases hold with
      | stdin =>
        obtain ⟨hbefore, hafter⟩ := hfits
        have hafter : pump.phase = _ := hafter
        simp [answer?, Pump.inHand?, hbefore, hafter]
      | queue =>
        obtain ⟨hbefore, hafter⟩ := hfits
        have hafter : pump.phase = _ := hafter
        simp [answer?, Pump.inHand?, hbefore, hafter]
    obtain ⟨hanswer, hbefore, hnothing⟩ := hquiet
    rw [hanswer, Option.toList_none, List.append_nil]
    rw [hbefore] at horder
    cases hold with
    | stdin =>
      refine hbase hmailbox (by rw [hnothing]; exact horder) fun hdone => ?_
      rw [show pump.phase = _ from hfits.2] at hdone
      cases hdone
    | queue =>
      refine hbase hmailbox (by rw [hnothing]; exact horder.close) fun _ => ?_
      simp only [Mailbox.witness, Mailbox.close_eq]

/-- A turn keeps the invariant, with what the pump answers in it. -/
lemma Accounted.step (h : Accounted name capacity answered s) {t : Turn} (hstep : s.step t = some s') :
    Accounted name capacity (answered ++ (s.answer? t).toList) s' := by
  rcases reach_of_step hstep with ⟨e, rfl, hmeet⟩ | ⟨rfl, hstage, hpump⟩ |
    ⟨hother, hpump, -, hmailbox, hstage⟩
  · rw [show s.answer? (.world e) = none from rfl, Option.toList_none, List.append_nil]
    exact h.meet hmeet
  · exact h.pump hstage hpump
  · have hquiet : s.answer? t = none := by
      cases t with
      | pump => exact absurd rfl hother
      | _ => rfl
    rw [hquiet, Option.toList_none, List.append_nil]
    refine ⟨?_, honest_of_step hstep h.honest, ?_, ?_⟩
    · rw [hmailbox, hpump]
      exact h.inOrder
    · rw [hstage, hpump]
      exact h.idle_of_unstarted
    · simpa only [isThrough, hstage, hpump, hmailbox] using h.closed_of_through

/-- The invariant holds after every course. -/
theorem accounted_run {config : Config} {turns : List Turn}
    (hrun : (create name config).run turns = some s) :
    Accounted name config.inboundQueueSize ((create name config).answers turns) s := by
  induction turns using List.reverseRecOn generalizing s with
  | nil =>
    cases hrun
    exact accounted_create name config
  | append_singleton turns t ih =>
    rw [run_concat] at hrun
    obtain ⟨s₀, hrun, hstep⟩ := Option.bind_eq_some_iff.mp hrun
    rw [answers_concat hrun hstep]
    exact (ih hrun).step hstep

/-! ### After the end -/

/-- A closed mailbox stays closed, keeps what is known, and refuses whatever is submitted. -/
lemma Accounted.closed_of_step (h : Accounted name capacity answered s)
    (hclosed : s.mailbox.isClosed = true) {t : Turn} (hstep : s.step t = some s') :
    s'.mailbox.isClosed = true ∧ s.mailbox.resolved ⊆ s'.mailbox.resolved ∧
      (s'.mailbox.nextTicket = s.mailbox.nextTicket ∨
        s'.mailbox.nextTicket = s.mailbox.nextTicket + 1 ∧
          (s.mailbox.nextTicket, some (.notAccepting name)) ∈ s'.mailbox.resolved) := by
  rcases reach_of_step hstep with ⟨e, rfl, hmeet⟩ | ⟨rfl, hstage, hpump⟩ | ⟨-, -, -, hmailbox, -⟩
  · rcases mailbox_of_meet hmeet with ⟨handles, hmailbox, -⟩ | ⟨payload, -, hmailbox, -⟩ |
      ⟨-, -, -, hmailbox⟩
    · rw [hmailbox]
      exact ⟨hclosed, List.Subset.refl _, .inl rfl⟩
    · rw [hmailbox, Mailbox.submit_of_isClosed hclosed, h.inOrder.session_eq]
      exact ⟨hclosed, List.subset_cons_self _ _, .inr ⟨rfl, List.mem_cons_self ..⟩⟩
    · rw [hmailbox]
      obtain ⟨hnext, hknown, hclosed'⟩ := s.mailbox.part.known_close
      exact ⟨hclosed', hknown, .inl hnext⟩
  · obtain ⟨m, -, -, -, hmailbox, -⟩ := mailbox_of_stepPump hpump
    obtain ⟨hnext, hknown, hkeep⟩ := s.mailbox.known_witness m.act
    rw [hmailbox]
    exact ⟨hkeep hclosed, hknown, .inl hnext⟩
  · rw [hmailbox]
    exact ⟨hclosed, List.Subset.refl _, .inl rfl⟩

/-- All messages that are submitted between two moments are refused, and none of them is accepted. -/
structure Refuses (name : String) (s s' : Session) : Prop where
  isClosed : s'.mailbox.isClosed = true
  queue_eq : s'.mailbox.queue = [] ∧ s'.mailbox.waiting = []
  le : s.mailbox.nextTicket ≤ s'.mailbox.nextTicket
  outcome_eq : ∀ ticket, s.mailbox.nextTicket ≤ ticket → ticket < s'.mailbox.nextTicket →
    s'.mailbox.outcome? ticket = some (some (.notAccepting name))

/-- A closed mailbox refuses all messages from then on. -/
lemma Accounted.refuses (h : Accounted name capacity answered s) (hclosed : s.mailbox.isClosed = true)
    {more : List Turn} (hrun : s.run more = some s') : Refuses name s s' := by
  -- What has become of the messages submitted since then is among what is known.
  have hlater : (∃ answered, Accounted name capacity answered s') ∧ s'.mailbox.isClosed = true ∧
      s.mailbox.nextTicket ≤ s'.mailbox.nextTicket ∧
      ∀ ticket, s.mailbox.nextTicket ≤ ticket → ticket < s'.mailbox.nextTicket →
        (ticket, some (.notAccepting name)) ∈ s'.mailbox.resolved := by
    refine run_induction (P := fun s' => (∃ answered, Accounted name capacity answered s') ∧
      s'.mailbox.isClosed = true ∧ s.mailbox.nextTicket ≤ s'.mailbox.nextTicket ∧
      ∀ ticket, s.mailbox.nextTicket ≤ ticket → ticket < s'.mailbox.nextTicket →
        (ticket, some (.notAccepting name)) ∈ s'.mailbox.resolved) ?_ hrun ?_
    · rintro s₁ t s₂ ⟨⟨answered₁, hbooks⟩, hclosed₁, hle, hrefused⟩ hstep
      obtain ⟨hclosed₂, hkeep, hnext⟩ := hbooks.closed_of_step hclosed₁ hstep
      refine ⟨⟨_, hbooks.step hstep⟩, hclosed₂, by omega, fun ticket hge hlt => ?_⟩
      by_cases hold : ticket < s₁.mailbox.nextTicket
      · exact hkeep (hrefused ticket hge hold)
      · obtain ⟨hsucc, hnew⟩ := hnext.resolve_left (by omega)
        obtain rfl : ticket = s₁.mailbox.nextTicket := by omega
        exact hnew
    · exact ⟨⟨answered, h⟩, hclosed, le_rfl, fun ticket hge hlt => absurd hge (by omega)⟩
  obtain ⟨⟨answered', hbooks⟩, hclosed', hle, hrefused⟩ := hlater
  exact
    { isClosed := hclosed'
      queue_eq := hbooks.inOrder.pending_of_closed hclosed'
      le := hle
      outcome_eq := fun ticket hge hlt => hbooks.inOrder.outcome_eq (hrefused ticket hge hlt) }

/-- A session that is through stays so, and nothing is written to its engine. -/
lemma through_of_step (hthrough : s.isThrough = true) {t : Turn} (hstep : s.step t = some s') :
    s'.isThrough = true ∧ s'.stdin.written = s.stdin.written := by
  have hready : s.stage ≠ .ready := fun hready => by simp [isThrough, hready] at hthrough
  rcases reach_of_step hstep with ⟨e, rfl, hmeet⟩ | ⟨rfl, hstage, hpump⟩ |
    ⟨-, hpump, hstdin, -, hstage⟩
  · obtain ⟨hpump, hstdin, -⟩ := pump_of_meet hmeet
    have hstage := stage_of_step hstep hready
    refine ⟨by simpa only [isThrough, hstage, hpump] using hthrough, ?_⟩
    rcases hstdin with hsame | ⟨event, -, happly⟩
    · rw [hsame]
    · rw [happly, Sink.written_apply]
  · obtain ⟨m, hmove, -⟩ := mailbox_of_stepPump hpump
    refine absurd ?_ (Pump.phase_ne_done_of_step hmove)
    simpa [isThrough, hstage, Pump.isDone] using hthrough
  · exact ⟨by simpa only [isThrough, hstage, hpump] using hthrough, by rw [hstdin]⟩

/-- Nothing is written to the engine of a session that is through. -/
lemma written_of_through (hthrough : s.isThrough = true) {more : List Turn}
    (hrun : s.run more = some s') : s'.stdin.written = s.stdin.written := by
  have hlater := run_induction
    (P := fun s' => s'.isThrough = true ∧ s'.stdin.written = s.stdin.written)
    (fun s₁ t s₂ ⟨hbefore, hsame⟩ hstep => by
      obtain ⟨hafter, hwritten⟩ := through_of_step hbefore hstep
      exact ⟨hafter, hwritten.trans hsame⟩) hrun ⟨hthrough, rfl⟩
  exact hlater.2

/-! ### No message is left hanging -/

/-- All messages of a session that is through have been resolved: as the pump has answered, or because
the session has ended. -/
lemma Accounted.resolved_of_through (h : Accounted name capacity answered s)
    (hthrough : s.isThrough = true) {ticket : Nat} (hticket : ticket < s.mailbox.nextTicket) :
    (∃ failure?, (ticket, failure?) ∈ answered ∧ s.mailbox.outcome? ticket = some failure?) ∨
      (∀ failure?, (ticket, failure?) ∉ answered) ∧
        ∃ failure, s.mailbox.outcome? ticket = some (some failure) ∧ failure.kind = .sessionClosed := by
  obtain ⟨hqueue, hwaiting⟩ := h.inOrder.pending_of_closed (h.closed_of_through hthrough)
  have hnothing : s.pump.inHand? = none := by
    by_cases hstage : s.stage = .started
    · have hdone : s.pump.phase = .done := by simpa [isThrough, hstage, Pump.isDone] using hthrough
      simp [Pump.inHand?, hdone]
    · simp [Pump.inHand?, h.idle_of_unstarted hstage]
  have hmem : ticket ∈ s.mailbox.settled := by
    have hall := h.inOrder.tickets.mem_iff (a := ticket)
    simpa [hnothing, Mailbox.pending, hqueue, hwaiting, hticket] using hall
  obtain ⟨⟨known, failure?⟩, hentry, heq⟩ := List.mem_map.mp hmem
  obtain rfl : known = ticket := heq
  have houtcome := h.inOrder.outcome_eq hentry
  by_cases hanswered : ∃ failure?', (known, failure?') ∈ answered
  · obtain ⟨failure?', hanswer⟩ := hanswered
    exact .inl ⟨failure?', hanswer, h.inOrder.outcome_eq (h.inOrder.resolved_of_answer _ hanswer)⟩
  · rw [not_exists] at hanswered
    refine .inr ⟨hanswered, ?_⟩
    rcases (h.inOrder.of_resolved _ hentry).resolve_left (hanswered failure?) with hrefused | hended
    · exact ⟨_, houtcome.trans (congrArg some hrefused), rfl⟩
    · exact ⟨_, houtcome.trans (congrArg some hended), rfl⟩

/-- A session whose outcome is known, or that was thrown away, is through: nobody learns an outcome
before the tasks have ended. -/
lemma through_of_outcome {limit : Nat} {arrived : List Arrival} (h : Faithful limit arrived s)
    (hover : s.outcome?.isSome = true ∨ s.stage = .discarded) : s.isThrough = true := by
  rcases hover with houtcome | hdiscarded
  · unfold outcome? at houtcome
    unfold isThrough
    split at houtcome
    · next hstage => simp [hstage]
    · next hstage =>
      have hjoined : s.controller.hasJoined = true := by
        unfold Controller.outcome? at houtcome
        split at houtcome
        · next hphase => simp [Controller.hasJoined, hphase]
        · cases houtcome
      have hdone := (areTasksDone_iff.mp (h.done_of_joined hjoined)).2.2.1
      simp [hstage, Pump.isDone, hdone]
    · cases houtcome
  · simp [isThrough, hdiscarded]

/-- However submissions, the tasks, the engine and the caller take their turns: the queue never holds
more messages than it should, and a session whose outcome is known is through.  When a session is through,
every message submitted so far has been resolved, as the pump has answered or else because the session
has ended; all later ones are refused, and nothing more is written.  Once a message has been refused, no
later one is accepted. -/
theorem submissions_resolved (name : String) (config : Config) (turns : List Turn) (s : Session)
    (hrun : (create name config).run turns = some s) :
    s.mailbox.queue.length ≤ max config.inboundQueueCapacity 1 ∧
    (s.outcome?.isSome = true ∨ s.stage = .discarded → s.isThrough = true) ∧
    (s.isThrough = true →
      (∀ ticket < s.mailbox.nextTicket,
        (∃ failure?, (ticket, failure?) ∈ (create name config).answers turns ∧
          s.mailbox.outcome? ticket = some failure?) ∨
        (∀ failure?, (ticket, failure?) ∉ (create name config).answers turns) ∧
          ∃ failure, s.mailbox.outcome? ticket = some (some failure) ∧
            failure.kind = .sessionClosed) ∧
      ∀ more s', s.run more = some s' →
        Refuses name s s' ∧ s'.stdin.written = s.stdin.written) ∧
    ∀ ticket, s.mailbox.outcome? ticket = some (some (.notAccepting name)) →
      ∀ more s', s.run more = some s' → Refuses name s s' := by
  have hbooks := accounted_run hrun
  refine ⟨?_, through_of_outcome (faithful_run hrun), fun hthrough => ⟨fun ticket hticket => ?_,
    fun more s' hmore => ⟨?_, ?_⟩⟩, fun ticket hrefused more s' hmore => ?_⟩
  · have hle := hbooks.inOrder.queue_le
    rw [hbooks.inOrder.capacity_eq] at hle
    exact hle
  · exact hbooks.resolved_of_through hthrough hticket
  · exact hbooks.refuses (hbooks.closed_of_through hthrough) hmore
  · exact written_of_through hthrough hmore
  · obtain ⟨before, after, hsplit, -⟩ := List.lookup_eq_some_iff.mp hrefused
    have hmem : (ticket, some (.notAccepting name)) ∈ s.mailbox.resolved := by
      rw [hsplit]
      exact List.mem_append_right _ (List.mem_cons_self ..)
    exact hbooks.refuses (hbooks.inOrder.closed_of_refusal ticket hmem) hmore

/-- Four messages for a queue that holds one: the first is written, the second is cut off when nobody
waits for the outcome any more, the third is in the queue and the fourth waits for room.  All four are
resolved, and whatever is submitted later is refused. -/
theorem resolved_of_abandoned :
    let config : Config := { binary := .path "engine", inboundQueueCapacity := 0 }
    let turns : List Turn :=
      [.world .share, .world (.start none)] ++
        ["a", "b", "c", "d"].map (fun text => .world (.submit (Bytes.ofText text))) ++
        List.replicate 6 .pump ++ [.world .abandon] ++ List.replicate 5 .pump
    ∃ s, (create "s" config).run turns = some s ∧ s.mailbox.queue.length ≤ 1 ∧
      (create "s" config).answers turns = [(0, none), (1, some .writeCutOff)] ∧
      s.stdin.written = Bytes.ofText "a\n" ∧
      (∃ failure, s.mailbox.outcome? 2 = some (some failure) ∧ failure.kind = .sessionClosed) ∧
      ∀ more s', s.run more = some s' →
        Refuses "s" s s' ∧ s'.stdin.written = Bytes.ofText "a\n" := by
  intro config turns
  have hend : ((create "s" config).run turns).any (fun s =>
      s.isThrough && s.mailbox.nextTicket = 4 && s.stdin.written = Bytes.ofText "a\n") = true := by
    decide +kernel
  have hanswers :
      (create "s" config).answers turns = [(0, none), (1, some .writeCutOff)] := by
    decide +kernel
  simp only [Option.any_eq_true, Bool.and_eq_true, decide_eq_true_eq] at hend
  obtain ⟨s, hrun, ⟨hthrough, hnext⟩, hwritten⟩ := hend
  obtain ⟨hqueue, -, hend, -⟩ := submissions_resolved "s" config turns s hrun
  obtain ⟨hresolved, hlater⟩ := hend hthrough
  refine ⟨s, hrun, hqueue, hanswers, hwritten, ?_, fun more s' hmore => ?_⟩
  · rcases hresolved 2 (by omega) with ⟨failure?, hanswer, -⟩ | ⟨-, hended⟩
    · simp [hanswers] at hanswer
    · exact hended
  · obtain ⟨hrefuses, hsame⟩ := hlater more s' hmore
    exact ⟨hrefuses, hsame.trans hwritten⟩

end Session
end Traversal
