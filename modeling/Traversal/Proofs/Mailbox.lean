import Mathlib
import Traversal.Proofs.Draining
import Traversal.Proofs.PumpAnswers

/-!
# Messages on their way into a session

What the operations of a mailbox do to the numbers of its messages, and which turns of a session reach
its mailbox.  A message is in the queue, waits for room, or has been resolved; `Mailbox.pending` and
`Mailbox.settled` are the numbers of those, and no operation loses or repeats one of them.

Beside the world only the pump moves messages, and `honest_run` says that what it answers is true after
every course.
-/

namespace Traversal

namespace Mailbox

/-- The numbers of the messages that have been resolved, latest first. -/
def settled (m : Mailbox) : List Nat :=
  m.resolved.map Prod.fst

/-- The numbers of the messages in the queue, and behind them those of the messages that wait. -/
def pending (m : Mailbox) : List Nat :=
  (m.queue ++ m.waiting).map Request.ticket

/-- Giving messages up resolves them, and does nothing else. -/
lemma refuse_eq (m : Mailbox) (requests : List Request) (failure : Failure) :
    m.refuse requests failure =
      { m with
        resolved :=
          (requests.map fun request => (request.ticket, some failure)).reverse ++ m.resolved } := by
  induction requests generalizing m with
  | nil => rfl
  | cons request requests ih =>
    have hrest := ih (m.resolve request.ticket (some failure))
    simp only [refuse, List.foldl_cons] at hrest ⊢
    rw [hrest]
    simp [resolve]

/-- What a message that can no longer be accepted is resolved with. -/
lemma submit_of_isClosed {m : Mailbox} (h : m.isClosed = true) (payload : Bytes) :
    m.submit payload =
      { m with
        nextTicket := m.nextTicket + 1
        resolved := (m.nextTicket, some (.notAccepting m.session)) :: m.resolved } := by
  simp [submit, h, refuse_eq]

/-- A mailbox that is closed has given up every message in it. -/
lemma close_eq (m : Mailbox) :
    m.close =
      { m with
        queue := []
        waiting := []
        isClosed := true
        resolved :=
          (m.queue.map fun request => (request.ticket, some (.endedUnwritten m.session))).reverse ++
            ((m.waiting.map fun request =>
              (request.ticket, some (.notAccepting m.session))).reverse ++ m.resolved) } := by
  simp only [close, refuse_eq]

/-- When the queue goes away, what is known of messages is still known. -/
lemma known_close (m : Mailbox) :
    m.close.nextTicket = m.nextTicket ∧ m.resolved ⊆ m.close.resolved ∧ m.close.isClosed = true := by
  rw [close_eq]
  exact ⟨rfl, fun _ hentry => List.mem_append_right _ (List.mem_append_right _ hentry), rfl⟩

/-- Room in the queue is at once taken by a message that waits. -/
lemma pending_take {m : Mailbox} {request : Request} (hfirst : m.queue.head? = some request) :
    m.pending = request.ticket :: m.take.pending := by
  obtain ⟨rest, hqueue⟩ := List.head?_eq_some_iff.mp hfirst
  simp only [pending, take, hqueue, List.tail_cons, List.append_assoc, List.take_append_drop]
  rfl

/-- The queue does not grow when a message leaves it. -/
lemma length_queue_take {m : Mailbox} {request : Request} (hfirst : m.queue.head? = some request) :
    m.take.queue.length ≤ m.queue.length := by
  obtain ⟨rest, hqueue⟩ := List.head?_eq_some_iff.mp hfirst
  simp only [take, hqueue, List.tail_cons, List.length_append, List.length_take, List.length_cons]
  omega

/-- A message that is submitted is pending, or resolved if the mailbox is closed. -/
lemma submit_cases (m : Mailbox) (payload : Bytes) :
    m.isClosed = true ∧ m.submit payload =
      { m with
        nextTicket := m.nextTicket + 1
        resolved := (m.nextTicket, some (.notAccepting m.session)) :: m.resolved } ∨
    m.isClosed = false ∧ m.queue.length < m.capacity ∧ m.submit payload =
      { m with nextTicket := m.nextTicket + 1, queue := m.queue ++ [⟨m.nextTicket, payload⟩] } ∨
    m.isClosed = false ∧ m.submit payload =
      { m with nextTicket := m.nextTicket + 1, waiting := m.waiting ++ [⟨m.nextTicket, payload⟩] } := by
  by_cases hclosed : m.isClosed = true
  · exact .inl ⟨hclosed, submit_of_isClosed hclosed payload⟩
  · right
    rw [Bool.not_eq_true] at hclosed
    by_cases hroom : m.queue.length < m.capacity
    · exact .inl ⟨hclosed, hroom, by simp [submit, hclosed, hroom]⟩
    · exact .inr ⟨hclosed, by simp [submit, hclosed, hroom]⟩

/-- What the pump shows in a step reaches the mailbox. -/
def witness (m : Mailbox) : Pump.Act → Mailbox
  | .take => m.take
  | .answer ticket failure? => m.resolve ticket failure?
  | .release .queue => m.close
  | _ => m

/-- What a pump shows is no message, takes back nothing of what is known, and opens nothing that is closed. -/
lemma known_witness (m : Mailbox) (act : Pump.Act) :
    (m.witness act).nextTicket = m.nextTicket ∧ m.resolved ⊆ (m.witness act).resolved ∧
      (m.isClosed = true → (m.witness act).isClosed = true) := by
  unfold witness
  split
  · exact ⟨rfl, List.Subset.refl _, id⟩
  · exact ⟨rfl, List.subset_cons_self _ _, id⟩
  · obtain ⟨hnext, hknown, hclosed⟩ := m.known_close
    exact ⟨hnext, hknown, fun _ => hclosed⟩
  · exact ⟨rfl, List.Subset.refl _, id⟩

/-- What became of a message that has been resolved once can be looked up. -/
lemma outcome_eq {m : Mailbox} (hnodup : m.settled.Nodup) {ticket : Nat} {failure? : Option Failure}
    (hmem : (ticket, failure?) ∈ m.resolved) : m.outcome? ticket = some failure? := by
  obtain ⟨before, after, hsplit⟩ := List.append_of_mem hmem
  refine List.lookup_eq_some_iff.mpr ⟨before, after, hsplit, fun entry hentry => ?_⟩
  rw [settled, hsplit, List.map_append, List.nodup_append] at hnodup
  have hne : entry.1 ≠ ticket :=
    hnodup.2.2 _ (List.mem_map_of_mem hentry) _ (by simp)
  simpa using Ne.symm hne

end Mailbox

namespace Session

variable {s s' : Session}

/-! ### Turns that reach the mailbox -/

/-- The world changes nothing about the pump but the far side of the engine's standard input. -/
lemma pump_of_meet {e : Event} (h : s.meet e = some s') :
    s'.pump = s.pump ∧ (s'.stdin = s.stdin ∨ ∃ event, e = .stdin event ∧ s'.stdin = s.stdin.apply event) ∧
      (s.isShutdown = true → s'.isShutdown = true) := by
  unfold meet at h
  cases e with
  | start failure? =>
    simp only at h
    split at h
    · cases failure? <;> cases h <;> exact ⟨rfl, .inl rfl, id⟩
    · cases h
  | discard | submit payload | share | part =>
    simp only at h
    split at h <;> cases h
    exact ⟨rfl, .inl rfl, id⟩
  | abandon =>
    simp only at h
    split at h <;> cases h
    exact ⟨rfl, .inl rfl, fun _ => rfl⟩
  | stdout a | stderr a =>
    cases h
    split <;> exact ⟨rfl, .inl rfl, id⟩
  | stdin event =>
    cases h
    exact ⟨rfl, .inr ⟨event, rfl, rfl⟩, id⟩
  | cancel | diagnostics e | exit status | elapse duration =>
    cases h
    exact ⟨rfl, .inl rfl, id⟩

/-- The world submits a message, changes who can submit messages, or lets the session be over before it
has begun. -/
lemma mailbox_of_meet {e : Event} (h : s.meet e = some s') :
    (∃ handles, s'.mailbox = { s.mailbox with handles := handles } ∧
        (s'.stage = s.stage ∨ s.stage = .ready ∧ s'.stage = .started)) ∨
      (∃ payload, e = .submit payload ∧ s'.mailbox = s.mailbox.submit payload ∧ s'.stage = s.stage) ∨
      s.stage = .ready ∧ s'.stage ≠ .ready ∧ s'.stage ≠ .started ∧ s'.mailbox = s.mailbox.part.close := by
  unfold meet at h
  cases e with
  | start failure? =>
    simp only at h
    split at h
    · next hready =>
      cases failure? with
      | none =>
        cases h
        exact .inl ⟨_, rfl, .inr ⟨hready, rfl⟩⟩
      | some failure =>
        cases h
        exact .inr (.inr ⟨hready, by simp [forgo, release], by simp [forgo, release], rfl⟩)
    · cases h
  | discard =>
    simp only at h
    split at h
    · next hready =>
      cases h
      exact .inr (.inr ⟨hready, by simp [forgo, release], by simp [forgo, release], rfl⟩)
    · cases h
  | abandon =>
    simp only at h
    split at h <;> cases h
    exact .inl ⟨s.mailbox.handles, rfl, .inl rfl⟩
  | submit payload =>
    simp only at h
    split at h <;> cases h
    exact .inr (.inl ⟨payload, rfl, rfl, rfl⟩)
  | share | part =>
    simp only at h
    split at h <;> cases h
    exact .inl ⟨_, rfl, .inl rfl⟩
  | stdout a | stderr a =>
    cases h
    split <;> exact .inl ⟨s.mailbox.handles, rfl, .inl rfl⟩
  | stdin e | cancel | diagnostics e | exit status | elapse duration =>
    cases h
    exact .inl ⟨s.mailbox.handles, rfl, .inl rfl⟩

/-- A turn is the world's or the pump's, or it leaves messages alone. -/
lemma reach_of_step {t : Turn} (h : s.step t = some s') :
    (∃ e, t = .world e ∧ s.meet e = some s') ∨
      t = .pump ∧ s.stage = .started ∧ s.stepPump = some s' ∨
      t ≠ .pump ∧ s'.pump = s.pump ∧ s'.stdin = s.stdin ∧ s'.mailbox = s.mailbox ∧
        s'.stage = s.stage := by
  cases moves_of_step h with
  | world hmeet => exact .inl ⟨_, rfl, hmeet⟩
  | pump hstage hpump => exact .inr (.inl ⟨rfl, hstage, hpump⟩)
  | router _ hrouter =>
    obtain ⟨_, _, _, _, _, _, _, rfl, -⟩ := stepRouter_eq hrouter
    exact .inr (.inr ⟨by simp, rfl, rfl, rfl, rfl⟩)
  | relay _ hrelay =>
    obtain ⟨_, _, _, _, _, _, rfl, -⟩ := stepRelay_eq hrelay
    exact .inr (.inr ⟨by simp, rfl, rfl, rfl, rfl⟩)
  | watcher _ hwatcher =>
    obtain ⟨_, _, _, _, _, rfl, -⟩ := stepWatcher_eq hwatcher
    exact .inr (.inr ⟨by simp, rfl, rfl, rfl, rfl⟩)
  | controller _ hcontroller =>
    obtain ⟨_, -, _, _, _, _, rfl, -⟩ := stepController_eq hcontroller
    exact .inr (.inr ⟨by simp, rfl, rfl, rfl, rfl⟩)

/-- A step of the pump, and what reaches the mailbox of it. -/
lemma mailbox_of_stepPump (h : s.stepPump = some s') :
    ∃ m, s.pump.step s.isShutdown s.mailbox.queue.head? (0 < s.mailbox.handles) s.stdin = some m ∧
      s'.pump = m.pump ∧ s'.stdin = m.stdin ∧ s'.mailbox = s.mailbox.witness m.act ∧
      s'.stage = s.stage ∧ s'.isShutdown = s.isShutdown := by
  simp only [stepPump, Option.bind_eq_bind, Option.bind_eq_some_iff] at h
  obtain ⟨⟨pump, stdin, act⟩, hmove, h⟩ := h
  refine ⟨_, hmove, ?_⟩
  cases act with
  | inner | take | answer ticket failure? =>
    cases h
    exact ⟨rfl, rfl, rfl, rfl, rfl⟩
  | release hold =>
    cases hold <;> cases h <;> exact ⟨rfl, rfl, rfl, rfl, rfl⟩

/-- A session that has once been started, or given up, remains so. -/
lemma stage_of_step {t : Turn} (h : s.step t = some s') (hstage : s.stage ≠ .ready) :
    s'.stage = s.stage := by
  rcases reach_of_step h with ⟨e, -, hmeet⟩ | ⟨-, -, hpump⟩ | ⟨-, -, -, -, hsame⟩
  · rcases mailbox_of_meet hmeet with ⟨_, -, hsame | ⟨hready, -⟩⟩ | ⟨_, -, -, hsame⟩ | ⟨hready, -⟩
    · exact hsame
    · exact absurd hready hstage
    · exact hsame
    · exact absurd hready hstage
  · obtain ⟨m, -, -, -, -, hsame, -⟩ := mailbox_of_stepPump hpump
    exact hsame
  · exact hsame

/-! ### True answers -/

/-- Once the tasks have been told to stop, this is not taken back. -/
lemma isShutdown_of_step {t : Turn} (h : s.step t = some s') (hshut : s.isShutdown = true) :
    s'.isShutdown = true := by
  cases moves_of_step h with
  | world hmeet => exact (pump_of_meet hmeet).2.2 hshut
  | router _ hrouter =>
    obtain ⟨_, _, _, _, _, _, _, rfl, -⟩ := stepRouter_eq hrouter
    exact hshut
  | relay _ hrelay =>
    obtain ⟨_, _, _, _, _, _, rfl, -⟩ := stepRelay_eq hrelay
    exact hshut
  | pump _ hpump =>
    obtain ⟨_, _, _, _, rfl, -⟩ := stepPump_eq hpump
    exact hshut
  | watcher _ hwatcher =>
    obtain ⟨_, _, _, _, _, rfl, -⟩ := stepWatcher_eq hwatcher
    exact hshut
  | controller _ hcontroller =>
    by_contra hnot
    rw [isShutdown_of_stepController hcontroller (by simpa using hnot)] at hshut
    cases hshut

/-- A turn keeps the pump honest. -/
lemma honest_of_step {t : Turn} (h : s.step t = some s') (hhonest : s.pump.Honest s.isShutdown s.stdin) :
    s'.pump.Honest s'.isShutdown s'.stdin := by
  have hlater : ∀ {p : Pump} {k : Sink}, p.Honest s.isShutdown k → p.Honest s'.isShutdown k := by
    intro p k hp
    cases hshut : s.isShutdown with
    | true =>
      rw [isShutdown_of_step h hshut]
      exact hp.shutdown
    | false =>
      cases hshut' : s'.isShutdown with
      | true => exact hp.shutdown
      | false => exact hshut ▸ hp
  refine hlater ?_
  rcases reach_of_step h with ⟨e, -, hmeet⟩ | ⟨-, -, hpump⟩ | ⟨-, hpump, hstdin, -⟩
  · obtain ⟨hpump, hstdin, -⟩ := pump_of_meet hmeet
    rw [hpump]
    rcases hstdin with hsame | ⟨event, -, happly⟩
    · rw [hsame]
      exact hhonest
    · rw [happly]
      exact hhonest.apply event
  · obtain ⟨m, hmove, hpump', hstdin, -⟩ := mailbox_of_stepPump hpump
    rw [hpump', hstdin]
    exact hhonest.step hmove
  · rw [hpump, hstdin]
    exact hhonest

/-- The pump is honest after every course. -/
theorem honest_run {name : String} {config : Config} {turns : List Turn}
    (hrun : (create name config).run turns = some s) : s.pump.Honest s.isShutdown s.stdin := by
  refine run_induction (P := fun s => s.pump.Honest s.isShutdown s.stdin) ?_ hrun ?_
  · exact fun _ _ _ hhonest hstep => honest_of_step hstep hhonest
  · exact .of_quiet rfl rfl (by simp [create])

end Session
end Traversal
