import Mathlib
import Traversal.Proofs.PumpAnswers
import Traversal.Proofs.PumpLedger
import Traversal.Proofs.PumpReplies

/-!
# What becomes of submitted messages

A `Docket` goes along with a course of a pump and writes down every reply, whether or not anybody
waits for it.

`Docket.Orderly` is the invariant of all courses: the messages that have left the queue have been
answered in their order, but for the one in hand, and those that were in the queue when it went away
have been dropped (`Docket.Resolved`).  The answers are true because the pump is honest.
-/

namespace Traversal.PumpRig

/-- What the pump answers in a turn, it was about to answer. -/
lemma answering_of_emitted {rig : PumpRig} {ticket : Nat} {failure? : Option Failure}
    (h : (ticket, .answered failure?) ∈ rig.emitted .pump) :
    ∃ request, request.ticket = ticket ∧ rig.pump.phase = .answering request failure? := by
  cases hstep : rig.pump.step rig.isShutdown rig.queue.head? rig.hasSenders rig.stdin with
  | none => simp [emitted, PumpRig.turn, PumpRig.step, plain, hstep] at h
  | some m =>
    have hfits := Pump.fits_of_step hstep
    rw [emitted_of_step hstep] at h
    cases hact : m.act with
    | inner | take => simp [shown, hact] at h
    | answer ticket' failure?' =>
      rw [hact] at hfits
      obtain ⟨request, hticket, hphase, -⟩ := hfits
      obtain ⟨rfl, rfl⟩ : ticket = ticket' ∧ failure? = failure?' := by simpa [shown, hact] using h
      exact ⟨request, hticket, hphase⟩
    | release hold => cases hold <;> simp [shown, hact] at h

/-! ### The docket -/

/-- The ledger of a rig, and all that has been replied. -/
structure Docket where
  ledger : Ledger
  /-- All replies in order, whether or not anybody waits for them. -/
  log : List (Nat × Reply) := []

namespace Docket

/-- A docket at the start. -/
def start (capacity : Nat) : Docket where
  ledger := .start capacity

/-- A docket after a turn. -/
def turn (d : Docket) (t : Turn) : Docket where
  ledger := d.ledger.turn t
  log := d.log ++ d.ledger.rig.emitted t

/-- A docket after a course. -/
def course (d : Docket) (turns : List Turn) : Docket :=
  turns.foldl turn d

/-- The replies about messages that have been accepted into the queue. -/
def resolved (d : Docket) : List (Nat × Reply) :=
  d.log.filter fun reply => reply.2.isResolution

/-- The replies about messages that have not been accepted. -/
def rejected (d : Docket) : List (Nat × Reply) :=
  d.log.filter fun reply => !reply.2.isResolution

/-- The ledger of a docket goes its course. -/
lemma ledger_course (d : Docket) (turns : List Turn) :
    (d.course turns).ledger = d.ledger.course turns := by
  induction turns generalizing d with
  | nil => rfl
  | cons t turns ih => exact ih (d.turn t)

/-- Whoever still waits for a reply has had those that have been given, and no others. -/
lemma awaited_course (capacity : Nat) (turns : List Turn) :
    let d := (start capacity).course turns
    d.ledger.rig.awaited d.ledger.rig.replies = d.ledger.rig.awaited d.log := by
  induction turns using List.reverseRecOn with
  | nil => rfl
  | append_singleton turns t ih =>
    simp only [course, List.foldl_append, List.foldl_cons, List.foldl_nil] at ih ⊢
    generalize turns.foldl turn (start capacity) = d at ih ⊢
    obtain ⟨hreplies, hforgotten⟩ := d.ledger.rig.replies_turn t
    -- Who waits after the turn has waited before it.
    have hlater : ∀ replies, (d.ledger.rig.turn t).awaited (d.ledger.rig.awaited replies) =
        (d.ledger.rig.turn t).awaited replies := by
      intro replies
      unfold awaited
      rw [List.filter_filter]
      refine List.filter_congr fun reply _ => ?_
      by_cases hold : reply.1 ∈ d.ledger.rig.forgotten
      · simp [hold, hforgotten hold]
      · simp [hold]
    change (d.ledger.rig.turn t).awaited (d.ledger.rig.turn t).replies =
      (d.ledger.rig.turn t).awaited (d.log ++ d.ledger.rig.emitted t)
    rw [hreplies, awaited_append, hlater, awaited_append, ← hlater d.ledger.rig.replies, ih, hlater]

/-! ### The invariant -/

/-- How the messages that have left the queue have been resolved. -/
structure Resolved (d : Docket) (answers : List (Nat × Option Failure)) (dropped : List Request) :
    Prop where
  resolved_eq : d.resolved = answers.map (fun answer => (answer.1, .answered answer.2)) ++
    dropped.map fun request => (request.ticket, .dropped)
  /-- The pump has answered the messages that it has taken, but for the one in hand. -/
  taken_eq : d.ledger.taken.map Request.ticket =
    answers.map Prod.fst ++ d.ledger.rig.pump.inHand?.toList.map Request.ticket
  accepted_eq : d.ledger.accepted = d.ledger.taken ++ dropped ++ d.ledger.rig.queue
  dropped_eq : d.ledger.rig.isQueueClosed = false → dropped = []
  /-- A message is only cut off by a shutdown, and then no other one is taken up. -/
  of_cutOff : ∀ answer ∈ answers, answer.2 = some .writeCutOff →
    d.ledger.rig.isShutdown = true ∧ d.ledger.rig.pump.inHand? = none
  last_of_cutOff : ∀ answer ∈ answers.dropLast, answer.2 ≠ some .writeCutOff
  of_failure : ∀ answer ∈ answers, ∀ failure, answer.2 = some failure →
    failure = .writeCutOff ∨ ∃ fault, failure = .writeFailed fault

/-- What holds of a docket after any course. -/
structure Orderly (d : Docket) : Prop where
  books : d.ledger.Books
  honest : Pump.Honest d.ledger.rig.isShutdown d.ledger.rig.pump d.ledger.rig.stdin
  resolved : ∃ answers dropped, d.Resolved answers dropped
  closed_of_done : d.ledger.rig.pump.phase = .done → d.ledger.rig.isQueueClosed = true
  queue_of_closed : d.ledger.rig.isQueueClosed = true → d.ledger.rig.queue = []
  queue_of_deaf : d.ledger.rig.pump.phase = .deaf →
    d.ledger.rig.queue = [] ∧ d.ledger.rig.hasSenders = false
  /-- A message that has been rejected has not been accepted. -/
  of_rejected : ∀ reply ∈ d.rejected, reply.1 < d.ledger.rig.nextTicket ∧
    reply.1 ∉ d.ledger.accepted.map Request.ticket

variable {d : Docket}

/-- The invariant holds at the start. -/
lemma orderly_start (capacity : Nat) : Orderly (start capacity) where
  books := Ledger.books_start capacity
  honest := .of_quiet rfl rfl (by simp [start, Ledger.start])
  resolved := ⟨[], [], by
    constructor <;> simp [start, Ledger.start, Docket.resolved, Pump.inHand?]⟩
  closed_of_done := by simp [start, Ledger.start]
  queue_of_closed := by simp [start, Ledger.start]
  queue_of_deaf := by simp [start, Ledger.start]
  of_rejected := by simp [start, rejected]

/-- What has been resolved when more has been replied. -/
lemma resolved_append (d : Docket) (l : Ledger) (more : List (Nat × Reply)) :
    resolved ⟨l, d.log ++ more⟩ = d.resolved ++ more.filter fun reply => reply.2.isResolution :=
  List.filter_append ..

/-- What has been rejected when more has been replied. -/
lemma rejected_append (d : Docket) (l : Ledger) (more : List (Nat × Reply)) :
    rejected ⟨l, d.log ++ more⟩ = d.rejected ++ more.filter fun reply => !reply.2.isResolution :=
  List.filter_append ..

/-- While the queue is open, no message has been dropped. -/
lemma Orderly.isQueueClosed_eq (h : Orderly d) (hphase : d.ledger.rig.pump.phase ≠ .done) :
    d.ledger.rig.isQueueClosed = false := by
  by_contra hclosed
  rw [Bool.not_eq_false] at hclosed
  exact hphase (h.books.done_of_closed hclosed)

/-- What neither moves a message nor resolves one keeps the invariant. -/
lemma Orderly.quiet (h : Orderly d) {l : Ledger} (hbooks : l.Books) {p : Pump} {k : Sink}
    {hasSenders isShutdown isStdinClosed : Bool} {nextTicket : Nat} {forgotten : List Nat}
    {replies more : List (Nat × Reply)}
    (hrig : l.rig =
      { d.ledger.rig with
        pump := p
        stdin := k
        hasSenders := hasSenders
        isShutdown := isShutdown
        nextTicket := nextTicket
        forgotten := forgotten
        replies := replies
        isStdinClosed := isStdinClosed })
    (hhonest : Pump.Honest isShutdown p k) (htaken : l.taken = d.ledger.taken)
    (haccepted : l.accepted = d.ledger.accepted) (hinHand : p.inHand? = d.ledger.rig.pump.inHand?)
    (hdone : p.phase = .done → d.ledger.rig.pump.phase = .done)
    (hdeaf : p.phase = .deaf → d.ledger.rig.queue = [] ∧ hasSenders = false)
    (hshutdown : d.ledger.rig.isShutdown = true → isShutdown = true)
    (hnext : d.ledger.rig.nextTicket ≤ nextTicket)
    (hmore : ∀ reply ∈ more, reply.2.isResolution = false ∧ reply.1 < nextTicket ∧
      reply.1 ∉ d.ledger.accepted.map Request.ticket) : Orderly ⟨l, d.log ++ more⟩ := by
  obtain ⟨answers, dropped, hresolved⟩ := h.resolved
  have hnone : more.filter (fun reply => reply.2.isResolution) = [] :=
    List.filter_eq_nil_iff.mpr fun reply hreply => by simp [(hmore reply hreply).1]
  refine
    { books := hbooks
      honest := by rw [hrig]; exact hhonest
      resolved := ⟨answers, dropped, ?_⟩
      closed_of_done := by rw [hrig]; exact fun hd => h.closed_of_done (hdone hd)
      queue_of_closed := by rw [hrig]; exact h.queue_of_closed
      queue_of_deaf := by rw [hrig]; exact hdeaf
      of_rejected := fun reply hreply => ?_ }
  · exact
      { resolved_eq := by rw [resolved_append, hnone, List.append_nil, hresolved.resolved_eq]
        taken_eq := by rw [htaken, hrig, hinHand, hresolved.taken_eq]
        accepted_eq := by rw [haccepted, htaken, hrig, hresolved.accepted_eq]
        dropped_eq := by rw [hrig]; exact hresolved.dropped_eq
        of_cutOff := fun answer hanswer hcut => by
          obtain ⟨hshut, hnothing⟩ := hresolved.of_cutOff answer hanswer hcut
          rw [hrig]
          exact ⟨hshutdown hshut, hinHand.trans hnothing⟩
        last_of_cutOff := hresolved.last_of_cutOff
        of_failure := hresolved.of_failure }
  · rw [haccepted, hrig]
    rw [rejected_append] at hreply
    rcases List.mem_append.mp hreply with hold | hnew
    · obtain ⟨hlt, hnot⟩ := h.of_rejected reply hold
      exact ⟨hlt.trans_le hnext, hnot⟩
    · exact (hmore reply (List.mem_of_mem_filter hnew)).2

/-- A message that is taken is in hand. -/
lemma Orderly.take (h : Orderly d) {l : Ledger} (hbooks : l.Books) {p : Pump} {k : Sink}
    {request : Request}
    (hhonest : Pump.Honest d.ledger.rig.isShutdown p k)
    (hphase : d.ledger.rig.pump.phase = .idle) (hshut : d.ledger.rig.isShutdown = false)
    (hfirst : d.ledger.rig.queue.head? = some request)
    (hafter : p.phase = .poised request .clearing false)
    (hrig : l.rig = { d.ledger.rig with pump := p, stdin := k, queue := d.ledger.rig.queue.tail })
    (htaken : l.taken = d.ledger.taken ++ [request]) (haccepted : l.accepted = d.ledger.accepted) :
    Orderly ⟨l, d.log⟩ := by
  obtain ⟨answers, dropped, hresolved⟩ := h.resolved
  have hopen := h.isQueueClosed_eq (by simp [hphase])
  obtain ⟨rest, hqueue⟩ := List.head?_eq_some_iff.mp hfirst
  have hnone : d.ledger.rig.pump.inHand? = none := by simp [Pump.inHand?, hphase]
  refine
    { books := hbooks
      honest := by rw [hrig]; exact hhonest
      resolved := ⟨answers, dropped, ?_⟩
      closed_of_done := fun hd => by simp [hrig, hafter] at hd
      queue_of_closed := fun hc => by simp [hrig, hopen] at hc
      queue_of_deaf := fun hd => by simp [hrig, hafter] at hd
      of_rejected := fun reply hreply => by
        obtain ⟨hlt, hnot⟩ := h.of_rejected reply hreply
        exact ⟨by rwa [hrig], by rwa [haccepted]⟩ }
  exact
    { resolved_eq := hresolved.resolved_eq
      taken_eq := by
        have htickets := hresolved.taken_eq
        rw [hnone, Option.toList_none, List.map_nil, List.append_nil] at htickets
        rw [htaken, List.map_append, htickets, hrig]
        simp [Pump.inHand?, hafter]
      accepted_eq := by
        rw [haccepted, htaken, hrig, hresolved.accepted_eq, hresolved.dropped_eq hopen, hqueue]
        simp
      dropped_eq := fun _ => hresolved.dropped_eq hopen
      of_cutOff := fun answer hanswer hcut => by
        rw [(hresolved.of_cutOff answer hanswer hcut).1] at hshut
        cases hshut
      last_of_cutOff := hresolved.last_of_cutOff
      of_failure := hresolved.of_failure }

/-- The message in hand is answered. -/
lemma Orderly.answer (h : Orderly d) {l : Ledger} (hbooks : l.Books) {p : Pump} {k : Sink}
    {request : Request} {failure? : Option Failure} {replies : List (Nat × Reply)}
    (hhonest : Pump.Honest d.ledger.rig.isShutdown p k)
    (hphase : d.ledger.rig.pump.phase = .answering request failure?) (hafter : p.phase = .idle)
    (hrig : l.rig = { d.ledger.rig with pump := p, stdin := k, replies := replies })
    (htaken : l.taken = d.ledger.taken) (haccepted : l.accepted = d.ledger.accepted) :
    Orderly ⟨l, d.log ++ [(request.ticket, .answered failure?)]⟩ := by
  obtain ⟨answers, dropped, hresolved⟩ := h.resolved
  have hopen := h.isQueueClosed_eq (by simp [hphase])
  have hinHand : d.ledger.rig.pump.inHand? = some request := by simp [Pump.inHand?, hphase]
  have hdropped := hresolved.dropped_eq hopen
  subst hdropped
  -- Nothing has been cut off before, since there is a message in hand.
  have hnotCut : ∀ answer ∈ answers, answer.2 ≠ some .writeCutOff := by
    intro answer hanswer hcut
    rw [(hresolved.of_cutOff answer hanswer hcut).2] at hinHand
    cases hinHand
  have htruth : ∀ failure, failure? = some failure →
      failure = .writeCutOff ∧ d.ledger.rig.isShutdown = true ∨
        ∃ fault, failure = .writeFailed fault := by
    rintro failure rfl
    exact h.honest.of_failure request failure hphase
  refine
    { books := hbooks
      honest := by rw [hrig]; exact hhonest
      resolved := ⟨answers ++ [(request.ticket, failure?)], [], ?_⟩
      closed_of_done := fun hd => by simp [hrig, hafter] at hd
      queue_of_closed := fun hc => by simp [hrig, hopen] at hc
      queue_of_deaf := fun hd => by simp [hrig, hafter] at hd
      of_rejected := fun reply hreply => by
        rw [rejected_append] at hreply
        obtain ⟨hlt, hnot⟩ := h.of_rejected reply (by simpa [Reply.isResolution] using hreply)
        exact ⟨by rwa [hrig], by rwa [haccepted]⟩ }
  exact
    { resolved_eq := by
        rw [resolved_append, hresolved.resolved_eq]
        simp [Reply.isResolution]
      taken_eq := by
        rw [htaken, hresolved.taken_eq, hinHand, hrig]
        simp [Pump.inHand?, hafter]
      accepted_eq := by rw [haccepted, htaken, hrig, hresolved.accepted_eq]
      dropped_eq := fun _ => rfl
      of_cutOff := fun answer hanswer hcut => by
        rcases List.mem_append.mp hanswer with hold | hnew
        · exact absurd hcut (hnotCut answer hold)
        · obtain rfl := List.mem_singleton.mp hnew
          rcases htruth _ hcut with ⟨-, hshut⟩ | ⟨fault, hfault⟩
          · rw [hrig]
            exact ⟨hshut, by simp [Pump.inHand?, hafter]⟩
          · cases hfault
      last_of_cutOff := by
        rw [List.dropLast_concat]
        exact hnotCut
      of_failure := fun answer hanswer failure hfailure => by
        rcases List.mem_append.mp hanswer with hold | hnew
        · exact hresolved.of_failure answer hold failure hfailure
        · obtain rfl := List.mem_singleton.mp hnew
          exact (htruth failure hfailure).imp_left And.left }

/-- The queue goes away, and the messages in it are dropped. -/
lemma Orderly.close (h : Orderly d) {l : Ledger} (hbooks : l.Books) {p : Pump} {k : Sink}
    {replies : List (Nat × Reply)}
    (hhonest : Pump.Honest d.ledger.rig.isShutdown p k)
    (hphase : d.ledger.rig.pump.phase = .releasing .queue) (hafter : p.phase = .done)
    (hrig : l.rig =
      { d.ledger.rig with
        pump := p
        stdin := k
        queue := []
        isQueueClosed := true
        replies := replies })
    (htaken : l.taken = d.ledger.taken) (haccepted : l.accepted = d.ledger.accepted) :
    Orderly
      ⟨l, d.log ++ d.ledger.rig.queue.map fun request => (request.ticket, .dropped)⟩ := by
  obtain ⟨answers, dropped, hresolved⟩ := h.resolved
  have hdropped := hresolved.dropped_eq (h.isQueueClosed_eq (by simp [hphase]))
  subst hdropped
  have hbefore : d.ledger.rig.pump.inHand? = none := by simp [Pump.inHand?, hphase]
  have hnone : p.inHand? = none := by simp [Pump.inHand?, hafter]
  refine
    { books := hbooks
      honest := by rw [hrig]; exact hhonest
      resolved := ⟨answers, d.ledger.rig.queue, ?_⟩
      closed_of_done := fun _ => by rw [hrig]
      queue_of_closed := fun _ => by rw [hrig]
      queue_of_deaf := fun hd => by simp [hrig, hafter] at hd
      of_rejected := fun reply hreply => by
        rw [rejected_append] at hreply
        obtain ⟨hlt, hnot⟩ := h.of_rejected reply (by
          simpa [Reply.isResolution, List.filter_map, Function.comp_def] using hreply)
        exact ⟨by rwa [hrig], by rwa [haccepted]⟩ }
  exact
    { resolved_eq := by
        rw [resolved_append, hresolved.resolved_eq]
        simp [Reply.isResolution, List.filter_map, Function.comp_def]
      taken_eq := by rw [htaken, hresolved.taken_eq, hbefore, hrig, hnone]
      accepted_eq := by
        rw [haccepted, htaken, hrig, hresolved.accepted_eq]
        simp
      dropped_eq := fun hopen => by simp [hrig] at hopen
      of_cutOff := fun answer hanswer hcut => by
        rw [hrig]
        exact ⟨(hresolved.of_cutOff answer hanswer hcut).1, hnone⟩
      last_of_cutOff := hresolved.last_of_cutOff
      of_failure := hresolved.of_failure }

/-- A step of the pump keeps the invariant. -/
lemma Orderly.step (h : Orderly d) {m : Pump.Move} (hstep : d.ledger.rig.pump.step
      d.ledger.rig.isShutdown d.ledger.rig.queue.head? d.ledger.rig.hasSenders d.ledger.rig.stdin =
        some m) : Orderly (d.turn .pump) := by
  have hbooks := h.books.step hstep
  have hhonest := h.honest.step hstep
  have hfits := Pump.fits_of_step hstep
  have hturn := Ledger.turn_of_step hstep
  have hrig := congrArg Ledger.rig hturn
  have haccepted := congrArg Ledger.accepted hturn
  have htaken := congrArg Ledger.taken hturn
  simp only at hrig haccepted htaken
  change Orderly ⟨d.ledger.turn .pump, d.log ++ d.ledger.rig.emitted .pump⟩
  rw [emitted_of_step hstep]
  generalize d.ledger.turn .pump = l at hbooks hrig haccepted htaken
  -- Unless a message is taken, none is taken up.
  have hsame : (d.ledger.rig.pump.inHand? = none → m.pump.inHand? = none) →
      l.taken = d.ledger.taken := by
    intro hnone
    rw [htaken, Pump.taken?]
    split
    · next hbefore => rw [hnone hbefore, Option.toList_none, List.append_nil]
    · exact List.append_nil _
  cases hact : m.act with
  | inner =>
    rw [hact] at hrig hfits
    obtain ⟨hinHand, hrunning, hdeaf⟩ := hfits
    refine h.quiet hbooks hrig hhonest (hsame hinHand.trans) haccepted hinHand
      (fun hdone => absurd hdone hrunning) (fun hphase => ?_) id le_rfl (by simp [shown])
    obtain ⟨hfirst, hsenders⟩ := hdeaf hphase
    exact ⟨List.head?_eq_none_iff.mp hfirst, hsenders⟩
  | take =>
    rw [hact] at hrig hfits
    obtain ⟨hphase, hshut, request, hfirst, hafter⟩ := hfits
    have htook : Pump.taken? d.ledger.rig.pump m.pump = some request := by
      simp [Pump.taken?, Pump.inHand?, hphase, hafter]
    rw [htook] at htaken
    rw [show d.ledger.rig.shown .take = [] from rfl, List.append_nil]
    exact h.take hbooks hhonest hphase hshut hfirst hafter hrig htaken haccepted
  | answer ticket failure? =>
    rw [hact] at hrig hfits
    obtain ⟨request, rfl, hphase, hafter⟩ := hfits
    obtain ⟨replies, hreply⟩ := reply_eq { d.ledger.rig with pump := m.pump, stdin := m.stdin }
      request.ticket (.answered failure?)
    exact h.answer hbooks hhonest hphase hafter (hrig.trans hreply)
      (hsame fun hnone => by simp [Pump.inHand?, hphase] at hnone) haccepted
  | release hold =>
    rw [hact] at hrig hfits
    cases hold with
    | stdin =>
      obtain ⟨hphase, hafter⟩ := hfits
      have hbefore : d.ledger.rig.pump.inHand? = none := by simp [Pump.inHand?, hphase]
      have hnone : m.pump.inHand? = none := by simp [Pump.inHand?, hafter]
      exact h.quiet hbooks hrig hhonest (hsame fun _ => hnone) haccepted (hnone.trans hbefore.symm)
        (fun hdone => by simp [hafter] at hdone) (fun hdeaf => by simp [hafter] at hdeaf) id le_rfl
        (by simp [shown])
    | queue =>
      obtain ⟨hphase, hafter⟩ := hfits
      obtain ⟨replies, hclose⟩ := closeQueue_eq
        { d.ledger.rig with pump := m.pump, stdin := m.stdin }
      exact h.close hbooks hhonest hphase hafter (hrig.trans hclose)
        (hsame fun _ => by simp [Pump.inHand?, hafter]) haccepted

/-- A message that gets into the queue has not been rejected. -/
lemma Orderly.accept (h : Orderly d) {l : Ledger} (hbooks : l.Books) {request : Request}
    {forgotten : List Nat} (hsenders : d.ledger.rig.hasSenders = true)
    (hopen : d.ledger.rig.isQueueClosed = false) (hticket : request.ticket = d.ledger.rig.nextTicket)
    (hrig : l.rig =
      { d.ledger.rig with
        nextTicket := d.ledger.rig.nextTicket + 1
        queue := d.ledger.rig.queue ++ [request]
        forgotten := forgotten })
    (htaken : l.taken = d.ledger.taken) (haccepted : l.accepted = d.ledger.accepted ++ [request]) :
    Orderly ⟨l, d.log⟩ := by
  obtain ⟨answers, dropped, hresolved⟩ := h.resolved
  refine
    { books := hbooks
      honest := by rw [hrig]; exact h.honest
      resolved := ⟨answers, dropped, ?_⟩
      closed_of_done := by rw [hrig]; exact h.closed_of_done
      queue_of_closed := fun hc => by simp [hrig, hopen] at hc
      queue_of_deaf := fun hd => ?_
      of_rejected := fun reply hreply => ?_ }
  · exact
      { resolved_eq := hresolved.resolved_eq
        taken_eq := by rw [htaken, hrig, hresolved.taken_eq]
        accepted_eq := by rw [haccepted, htaken, hrig, hresolved.accepted_eq, List.append_assoc]
        dropped_eq := by rw [hrig]; exact hresolved.dropped_eq
        of_cutOff := by rw [hrig]; exact hresolved.of_cutOff
        last_of_cutOff := hresolved.last_of_cutOff
        of_failure := hresolved.of_failure }
  · rw [hrig] at hd
    rw [(h.queue_of_deaf hd).2] at hsenders
    cases hsenders
  · obtain ⟨hlt, hnot⟩ := h.of_rejected reply hreply
    rw [hrig, haccepted, List.map_append, List.mem_append, List.map_singleton, List.mem_singleton,
      hticket]
    exact ⟨Nat.lt_succ_of_lt hlt, fun hmem => hmem.elim hnot hlt.ne⟩

/-- What happens around a pump keeps the invariant. -/
lemma Orderly.apply (h : Orderly d) (e : Event) : Orderly (d.turn (.event e)) := by
  have hbooks := h.books.apply e
  cases e with
  | submit payload isForgotten =>
    change Orderly ⟨d.ledger.turn _, d.log ++ d.ledger.rig.emitted _⟩
    rcases d.ledger.rig.submit_outcome payload isForgotten with ⟨r, hr, hemitted, hsubmit⟩ |
      ⟨hsenders, hopen, hemitted, forgotten, -, hsubmit⟩
    · rw [hemitted]
      have hfresh : d.ledger.rig.nextTicket ∉ d.ledger.accepted.map Request.ticket := by
        intro hmem
        obtain ⟨request, hrequest, hticket⟩ := List.mem_map.mp hmem
        exact (h.books.fresh request hrequest).ne hticket
      refine h.quiet hbooks hsubmit h.honest ?_ ?_ rfl id h.queue_of_deaf id (Nat.le_succ _) ?_
      · simp [Ledger.turn, PumpRig.turn, PumpRig.apply, hsubmit]
      · simp [Ledger.turn, PumpRig.turn, PumpRig.apply, hsubmit]
      · intro reply hreply
        obtain rfl := List.mem_singleton.mp hreply
        exact ⟨hr, Nat.lt_succ_self _, hfresh⟩
    · rw [hemitted, List.append_nil]
      refine h.accept hbooks hsenders hopen rfl hsubmit ?_ ?_
      · simp [Ledger.turn, PumpRig.turn, PumpRig.apply, hsubmit]
      · simp [Ledger.turn, PumpRig.turn, PumpRig.apply, hsubmit]
  | sink e =>
    have hhonest : Pump.Honest d.ledger.rig.isShutdown d.ledger.rig.pump (d.ledger.rig.stdin.apply e) :=
      h.honest.apply e
    exact h.quiet hbooks rfl hhonest (by simp [Ledger.turn, PumpRig.turn, PumpRig.apply])
      (by simp [Ledger.turn, PumpRig.turn, PumpRig.apply]) rfl id h.queue_of_deaf id le_rfl
      (by simp [emitted, PumpRig.turn, PumpRig.apply, plain])
  | dropSender =>
    exact h.quiet hbooks rfl h.honest (by simp [Ledger.turn, PumpRig.turn, PumpRig.apply])
      (by simp [Ledger.turn, PumpRig.turn, PumpRig.apply]) rfl id
      (fun hdeaf => ⟨(h.queue_of_deaf hdeaf).1, rfl⟩) id le_rfl
      (by simp [emitted, PumpRig.turn, PumpRig.apply, plain])
  | shutdown =>
    exact h.quiet hbooks rfl h.honest.shutdown (by simp [Ledger.turn, PumpRig.turn, PumpRig.apply])
      (by simp [Ledger.turn, PumpRig.turn, PumpRig.apply]) rfl id h.queue_of_deaf (fun _ => rfl) le_rfl
      (by simp [emitted, PumpRig.turn, PumpRig.apply, plain])

/-- A turn keeps the invariant. -/
lemma Orderly.turn (h : Orderly d) (t : Turn) : Orderly (d.turn t) := by
  cases t with
  | event e => exact h.apply e
  | pump =>
    cases hstep : d.ledger.rig.pump.step d.ledger.rig.isShutdown d.ledger.rig.queue.head?
        d.ledger.rig.hasSenders d.ledger.rig.stdin with
    | none =>
      have hturn : d.turn .pump = d := by
        simp [Docket.turn, Ledger.turn, emitted, PumpRig.turn, PumpRig.step, plain, hstep]
      rw [hturn]
      exact h
    | some m => exact h.step hstep
  | desert ticket =>
    exact h.quiet (h.books.turn (.desert ticket)) rfl h.honest (by simp [Ledger.turn, PumpRig.turn])
      (by simp [Ledger.turn, PumpRig.turn]) rfl id h.queue_of_deaf id le_rfl
      (by simp [emitted, PumpRig.turn, plain])

/-- The invariant holds after every course. -/
theorem orderly_course (capacity : Nat) (turns : List Turn) :
    Orderly ((start capacity).course turns) := by
  induction turns using List.reverseRecOn with
  | nil => exact orderly_start capacity
  | append_singleton turns t ih =>
    rw [course, List.foldl_append]
    exact ih.turn t

/-! ### Answers, standstill and end -/

/-- The tickets of the messages that have been resolved. -/
lemma Resolved.tickets_eq {answers : List (Nat × Option Failure)} {dropped : List Request}
    (h : d.Resolved answers dropped) :
    d.resolved.map Prod.fst = answers.map Prod.fst ++ dropped.map Request.ticket := by
  simp [h.resolved_eq, Function.comp_def]

/-- Messages are resolved in the order of the queue. -/
lemma Orderly.tickets_prefix (h : Orderly d) :
    d.resolved.map Prod.fst <+: d.ledger.accepted.map Request.ticket := by
  obtain ⟨answers, dropped, hresolved⟩ := h.resolved
  rw [hresolved.tickets_eq, hresolved.accepted_eq, List.map_append, List.map_append,
    hresolved.taken_eq]
  cases hclosed : d.ledger.rig.isQueueClosed with
  | true =>
    have hnone : d.ledger.rig.pump.inHand? = none := by
      simp [Pump.inHand?, h.books.done_of_closed hclosed]
    rw [hnone]
    simp
  | false =>
    rw [hresolved.dropped_eq hclosed]
    simp

/-- A message that is answered well is the last one in the stream, and nothing is held up. -/
lemma Orderly.of_answered (h : Orderly d) {ticket : Nat}
    (hemitted : (ticket, .answered none) ∈ d.ledger.rig.emitted .pump) :
    ∃ request ∈ d.ledger.accepted, request.ticket = ticket ∧
      Record.encode request.payload <:+ d.ledger.rig.stdin.written ∧ d.ledger.rig.pump.buffer = [] ∧
      d.ledger.rig.stdin.flushed = d.ledger.rig.stdin.written.length := by
  obtain ⟨request, hticket, hphase⟩ := answering_of_emitted hemitted
  obtain ⟨before, htaken⟩ := h.books.of_inHand request (by simp [Pump.inHand?, hphase])
  have hmem : request ∈ d.ledger.taken := by simp [htaken]
  exact ⟨request, h.books.taken_prefix.subset hmem, hticket, h.honest.of_success request hphase⟩

/-- A pump that can do nothing waits for room with a message in hand, or there is nothing to do. -/
lemma Orderly.standstill (h : Orderly d) (hstep : d.ledger.rig.step = none)
    (hdone : d.ledger.rig.pump.isDone = false) :
    (∃ before request stage, d.ledger.rig.pump.phase = .poised request stage true ∧
      d.ledger.rig.stdin.isReady = false ∧ d.ledger.accepted = before ++ request :: d.ledger.rig.queue ∧
      d.resolved.map Prod.fst = before.map Request.ticket) ∨
    d.ledger.rig.queue = [] ∧ d.resolved.map Prod.fst = d.ledger.accepted.map Request.ticket ∧
      ∀ reply ∈ d.resolved, ∃ failure?, reply.2 = .answered failure? := by
  obtain ⟨answers, dropped, hresolved⟩ := h.resolved
  have hrunning : d.ledger.rig.pump.phase ≠ .done := by simpa [Pump.isDone] using hdone
  have hdropped := hresolved.dropped_eq (h.isQueueClosed_eq hrunning)
  subst hdropped
  have htickets := hresolved.tickets_eq
  rw [List.map_nil, List.append_nil] at htickets
  have haccepted := hresolved.accepted_eq
  rw [List.append_nil] at haccepted
  have hidle : d.ledger.rig.pump.inHand? = none → d.ledger.rig.queue = [] →
      d.ledger.rig.queue = [] ∧ d.resolved.map Prod.fst = d.ledger.accepted.map Request.ticket ∧
        ∀ reply ∈ d.resolved, ∃ failure?, reply.2 = .answered failure? := by
    intro hnone hqueue
    refine ⟨hqueue, ?_, fun reply hreply => ?_⟩
    · rw [htickets, haccepted, hqueue, List.append_nil, hresolved.taken_eq, hnone]
      simp
    · rw [hresolved.resolved_eq] at hreply
      obtain ⟨answer, -, rfl⟩ : ∃ answer ∈ answers, (answer.1, Reply.answered answer.2) = reply := by
        simpa using hreply
      exact ⟨answer.2, rfl⟩
  rcases Pump.waits_of_step (Option.map_eq_none_iff.mp hstep) with ⟨hphase, hfirst⟩ | hphase |
    ⟨request, stage, hphase, hready⟩ | hphase
  · exact .inr (hidle (by simp [Pump.inHand?, hphase]) (List.head?_eq_none_iff.mp hfirst))
  · exact .inr (hidle (by simp [Pump.inHand?, hphase]) (h.queue_of_deaf hphase).1)
  · have hinHand : d.ledger.rig.pump.inHand? = some request := by simp [Pump.inHand?, hphase]
    obtain ⟨before, htaken⟩ := h.books.of_inHand request hinHand
    refine .inl ⟨before, request, stage, hphase, hready, by rw [haccepted, htaken]; simp, ?_⟩
    have htaken_eq := hresolved.taken_eq
    rw [htaken, hinHand, List.map_append] at htaken_eq
    rw [htickets]
    exact (List.append_cancel_right htaken_eq).symm
  · exact absurd hphase hrunning

/-- A pump that is done has answered the messages that it has taken, and all others have been dropped.
Only the last one that it has taken can have been cut off. -/
lemma Orderly.finished (h : Orderly d) (hdone : d.ledger.rig.pump.isDone = true) :
    ∃ (answers : List (Nat × Option Failure)) (dropped : List Request),
      d.ledger.accepted = d.ledger.taken ++ dropped ∧
      d.ledger.taken.map Request.ticket = answers.map Prod.fst ∧
      d.resolved = answers.map (fun answer => (answer.1, .answered answer.2)) ++
        dropped.map (fun request => (request.ticket, .dropped)) ∧
      ∀ answer ∈ answers.dropLast, ∀ failure, answer.2 = some failure →
        failure.kind ≠ .sessionClosed := by
  obtain ⟨answers, dropped, hresolved⟩ := h.resolved
  have hphase : d.ledger.rig.pump.phase = .done := by simpa [Pump.isDone] using hdone
  have hqueue := h.queue_of_closed (h.closed_of_done hphase)
  refine ⟨answers, dropped, ?_, ?_, hresolved.resolved_eq, fun answer hanswer failure hfailure => ?_⟩
  · rw [hresolved.accepted_eq, hqueue, List.append_nil]
  · rw [hresolved.taken_eq, show d.ledger.rig.pump.inHand? = none by simp [Pump.inHand?, hphase]]
    simp
  · rcases hresolved.of_failure answer (List.mem_of_mem_dropLast hanswer) failure hfailure with
      rfl | ⟨fault, rfl⟩
    · exact absurd hfailure (hresolved.last_of_cutOff answer hanswer)
    · simp [Failure.kind]

end Docket

/-- Whatever happens around a pump, and whenever it has its turns: every message that has got into the
queue is resolved at most once, in the order of the queue, and whoever still waits for a reply has had
it.

A message is answered well when its record is the last one in the stream and nothing is held up.  When
the pump can do nothing, it waits for room with one message in hand and the later ones in the queue,
or it has answered all.  When it is done, it has answered the messages that it has taken, of which
only the last can have been cut off, and the others have been dropped.  A message that has been
rejected never gets into the queue, and so no byte of it gets into the stream. -/
theorem replies_of_course (capacity : Nat) (turns : List Turn) :
    let d := (Docket.start capacity).course turns
    let rig := d.ledger.rig
    let tickets := d.ledger.accepted.map Request.ticket
    (rig = PumpRig.course { capacity := capacity } turns ∧
      rig.awaited rig.replies = rig.awaited d.log) ∧
    (d.resolved.map Prod.fst <+: tickets ∧ tickets.Nodup) ∧
    (∀ ticket, (ticket, .answered none) ∈ rig.emitted .pump →
      ∃ request ∈ d.ledger.accepted, request.ticket = ticket ∧
        Record.encode request.payload <:+ rig.stdin.written ∧ rig.pump.buffer = [] ∧
        rig.stdin.flushed = rig.stdin.written.length) ∧
    (rig.step = none → rig.pump.isDone = false →
      (∃ before request stage, rig.pump.phase = .poised request stage true ∧
        rig.stdin.isReady = false ∧ d.ledger.accepted = before ++ request :: rig.queue ∧
        d.resolved.map Prod.fst = before.map Request.ticket) ∨
      rig.queue = [] ∧ d.resolved.map Prod.fst = tickets ∧
        ∀ reply ∈ d.resolved, ∃ failure?, reply.2 = .answered failure?) ∧
    (rig.pump.isDone = true →
      ∃ (answers : List (Nat × Option Failure)) (dropped : List Request),
        d.ledger.accepted = d.ledger.taken ++ dropped ∧
        d.ledger.taken.map Request.ticket = answers.map Prod.fst ∧
        d.resolved = answers.map (fun answer => (answer.1, .answered answer.2)) ++
          dropped.map (fun request => (request.ticket, .dropped)) ∧
        ∀ answer ∈ answers.dropLast, ∀ failure, answer.2 = some failure →
          failure.kind ≠ .sessionClosed) ∧
    (∀ reply ∈ d.rejected, reply.1 ∉ tickets) ∧
    rig.stdin.written <+: Ledger.records d.ledger.kept ∧ d.ledger.kept ⊆ d.ledger.accepted := by
  intro d rig tickets
  have h : d.Orderly := Docket.orderly_course capacity turns
  have hrig : rig = PumpRig.course { capacity := capacity } turns := by
    rw [show rig = d.ledger.rig from rfl, Docket.ledger_course, Ledger.rig_course]
    rfl
  refine ⟨⟨hrig, Docket.awaited_course capacity turns⟩, ⟨h.tickets_prefix, h.books.nodup⟩,
    fun ticket hemitted => h.of_answered hemitted, h.standstill, h.finished,
    fun reply hreply => (h.of_rejected reply hreply).2,
    (List.prefix_append ..).trans h.books.bounded, ?_⟩
  exact fun request hrequest => h.books.taken_prefix.subset (List.mem_of_mem_filter hrequest)

/-- One message is written, the stream has room for one byte of the second one, two more get into the
queue and a fifth one is rejected. -/
def blockedCourse : List Turn :=
  [.event (.submit [97] false)] ++ List.replicate 6 .pump ++
    [.event (.sink (.budget (some 1))), .event (.submit [98] false), .event (.submit [99] true),
      .event (.submit [100] false), .event (.submit [101] false)] ++ List.replicate 6 .pump

/-- The second message is in hand and the pump waits for room, until a shutdown cuts it off and the
two in the queue are dropped. -/
theorem replies_of_blocked_message :
    let d := (Docket.start 3).course blockedCourse
    let d' := (Docket.start 3).course (blockedCourse ++ [.event .shutdown] ++ List.replicate 5 .pump)
    (∃ before request stage, d.ledger.rig.pump.phase = .poised request stage true ∧
      d.ledger.accepted = before ++ request :: d.ledger.rig.queue ∧
      d.resolved.map Prod.fst = before.map Request.ticket) ∧
    d'.resolved =
      [(0, .answered none), (1, .answered (some .writeCutOff)), (2, .dropped), (3, .dropped)] ∧
    d'.rejected = [(4, .queueFull)] ∧ 4 ∉ d'.ledger.accepted.map Request.ticket := by
  intro d d'
  have hstep : d.ledger.rig.step.isNone = true ∧ d.ledger.rig.pump.isDone = false ∧
      d.ledger.rig.queue.isEmpty = false := by
    decide +kernel
  have hresolved : d'.resolved =
      [(0, .answered none), (1, .answered (some .writeCutOff)), (2, .dropped), (3, .dropped)] := by
    decide +kernel
  have hrejected : d'.rejected = [(4, .queueFull)] := by decide +kernel
  obtain ⟨hnone, hrunning, hqueue⟩ := hstep
  refine ⟨?_, hresolved, hrejected, ?_⟩
  · rcases (replies_of_course 3 blockedCourse).2.2.2.1 (Option.isNone_iff_eq_none.mp hnone) hrunning with
      ⟨before, request, stage, hphase, -, haccepted, hbefore⟩ | ⟨hempty, -⟩
    · exact ⟨before, request, stage, hphase, haccepted, hbefore⟩
    · rw [List.isEmpty_eq_false_iff] at hqueue
      exact absurd hempty hqueue
  · exact (replies_of_course 3 _).2.2.2.2.2.1 (4, .queueFull) (by
      rw [hrejected]
      exact List.mem_singleton_self _)

end Traversal.PumpRig
