import Mathlib
import Traversal.Proofs.Chronicle

/-!
# When a failure of the engine is reported

An engine that ends with a failure may have written records that have not been read yet, and its
failure is held back for their sake.  `Session.Thorough` is the invariant behind this: a router that
nobody has told to stop and that is past reading has passed on all that its stream holds.  So the
failure is reported when that is the case, or when the grace period is over (`drained_of_exit`).

There is one exception.  A failure of the relay that comes in while the failure of the engine is held
back makes the controller give up at once, whatever the router has read by then.  `isCutShort` is this
situation, and `records_lost_of_cutShort` a course that leads to it.
-/

namespace Traversal.Session

open Router Arrival Bytes

variable {limit : Nat} {arrived : List Arrival} {s s' : Session}

/-! ### Routers that read to the end -/

/-- What holds of the router after any course in which this has arrived on the engine's standard
output. -/
structure Thorough (limit : Nat) (arrived : List Arrival) (s : Session) : Prop where
  /-- A router that is past reading has come to its own end, unless it was told to stop. -/
  settled : s.isShutdown = false → 2 ≤ s.router.rank → ∃ v, Settled limit arrived s v
  rank_of_closed : s.slot = .closed → s.router.rank = 5

/-- The invariant holds at the start. -/
lemma thorough_create (name : String) (config : Config) :
    Thorough config.maxLineBytes [] (create name config) where
  settled := by simp [create, start, rank]
  rank_of_closed := by simp [create]

/-- What leaves the router, the slot and the messages alone keeps the invariant. -/
lemma Thorough.congr (h : Thorough limit arrived s) (hrouter : s'.router = s.router)
    (hsent : s'.sentRev = s.sentRev) (hslot : s'.slot = .closed → s.slot = .closed)
    (hshutdown : s'.isShutdown = false → s.isShutdown = false) : Thorough limit arrived s' where
  settled hnot hrank := by
    simpa only [Settled, sent, hrouter, hsent] using h.settled (hshutdown hnot) (hrouter ▸ hrank)
  rank_of_closed hclosed := by simpa only [hrouter] using h.rank_of_closed (hslot hclosed)

/-- What arrives does not change what the router has come to. -/
lemma Thorough.append (h : Thorough limit arrived s) (more : List Arrival) :
    Thorough limit (arrived ++ more) s where
  settled hnot hrank := by
    obtain ⟨v, hconcluded, hr⟩ := h.settled hnot hrank
    exact ⟨v, hconcluded.append more, hr⟩
  rank_of_closed := h.rank_of_closed

/-- A step of the router keeps the invariant. -/
lemma Thorough.router (h : Thorough limit arrived s) (hfaithful : Faithful limit arrived s)
    (hstep : s.stepRouter = some s') : Thorough limit arrived s' := by
  simp only [stepRouter, Option.bind_eq_bind, Option.bind_eq_some_iff] at hstep
  obtain ⟨⟨r, stdout, act⟩, hmove, hstep⟩ := hstep
  have hfollows := hfaithful.follows.step hmove
  have hrank := rank_of_step hmove
  -- A router that still moves has not let go of the slot.
  have hopen : s.router.rank < 5 → s.slot ≠ .closed := fun hlt hclosed =>
    hlt.ne (h.rank_of_closed hclosed)
  -- A router that has come to its end before only lets go of things.
  have hend : 2 ≤ s.router.rank → s.isShutdown = false → 2 ≤ r.rank →
      ∃ v, Concluded limit arrived s.sent v ∧ 2 ≤ r.rank := by
    intro hbefore hnot hr
    obtain ⟨v, hconcluded, -⟩ := h.settled hnot hbefore
    exact ⟨v, hconcluded, hr⟩
  cases act with
  | inner =>
    cases hstep
    obtain ⟨hbefore, hafter⟩ := hrank
    refine ⟨fun hnot hr => ?_, fun hclosed => absurd hclosed (hopen (by omega))⟩
    -- Only a router that has been told to stop gives up reading by itself.
    rcases hafter with hle | ⟨hshut, -⟩
    · exact absurd (hr.trans hle) (by simp)
    · rw [show s.isShutdown = false from hnot] at hshut
      cases hshut
  | forward message =>
    cases hstep
    obtain ⟨hbefore, hafter⟩ := hrank
    exact ⟨fun hnot hr => absurd (hr.trans hafter.le) (by simp),
      fun hclosed => absurd hclosed (hopen (by omega))⟩
  | deliver t =>
    cases hstep
    obtain ⟨hbefore, hafter⟩ := hrank
    refine ⟨fun _ hr => ⟨_, hfollows.1, hr⟩, fun hclosed => ?_⟩
    rcases s.slot.deliver_cases t with ⟨hsame, -⟩ | ⟨-, hfull⟩
    · exact absurd (hsame ▸ hclosed) (hopen (by omega))
    · simp [hfull] at hclosed
  | post failure? =>
    obtain ⟨hbefore, hafter⟩ := hrank
    have hbase : Thorough limit arrived { s with router := r, stdout := stdout } :=
      ⟨fun _ hr => ⟨_, hfollows.1, hr⟩, fun hclosed => absurd hclosed (hopen (by omega))⟩
    rcases post_cases hstep with rfl | rfl
    · exact hbase
    · exact hbase.congr rfl rfl id id
  | release hold =>
    cases hold with
    | stdout =>
      cases hstep
      obtain ⟨hbefore, hafter⟩ := hrank
      exact ⟨hend (by omega), fun hclosed => absurd hclosed (hopen (by omega))⟩
    | notices =>
      cases hstep
      obtain ⟨hbefore, hafter⟩ := hrank
      exact ⟨hend (by omega), fun hclosed => absurd hclosed (hopen (by omega))⟩
    | slot =>
      cases hstep
      obtain ⟨hbefore, hafter⟩ := hrank
      exact ⟨hend (by omega), fun _ => hafter⟩

/-- Once the tasks have been told to stop, this is not taken back. -/
lemma isShutdown_of_stepController (h : s.stepController = some s') (hnot : s'.isShutdown = false) :
    s.isShutdown = false := by
  simp only [stepController, Option.bind_eq_bind, Option.bind_eq_some_iff] at h
  obtain ⟨⟨controller, act⟩, -, h⟩ := h
  cases act with
  | inner | take | leave | clear =>
    cases h
    exact hnot
  | stop =>
    cases h
    cases hnot

/-- A turn keeps the invariant. -/
lemma Thorough.step (h : Thorough limit arrived s) (hfaithful : Faithful limit arrived s) {t : Turn}
    (hstep : s.step t = some s') : Thorough limit (arrived ++ t.arrival?.toList) s' := by
  cases moves_of_step hstep with
  | world hmeet =>
    refine Thorough.append ?_ _
    rcases meet_eq hmeet with ⟨a, rfl, rfl⟩ | ⟨rfl, rfl⟩ | ⟨-, _, _, _, _, _, _, _, _, _, rfl, -⟩
    · split
      · exact h
      · exact h.congr rfl rfl id id
    · exact h.congr rfl rfl (fun hclosed => Slot.eq_of_abandon hclosed (by simp))
        (by simp [Session.abandon, release])
    · exact h.congr rfl rfl id id
  | router _ hrouter => exact (h.router hfaithful hrouter).append _
  | relay _ hrelay =>
    obtain ⟨_, _, _, _, _, _, rfl, -⟩ := stepRelay_eq hrelay
    refine Thorough.append ?_ _
    exact h.congr rfl rfl id id
  | pump _ hpump =>
    obtain ⟨_, _, _, _, rfl, -⟩ := stepPump_eq hpump
    refine Thorough.append ?_ _
    exact h.congr rfl rfl id id
  | watcher _ hwatcher =>
    obtain ⟨_, _, _, _, _, rfl, -⟩ := stepWatcher_eq hwatcher
    refine Thorough.append ?_ _
    exact h.congr rfl rfl id id
  | controller _ hcontroller =>
    have hshutdown := isShutdown_of_stepController hcontroller
    obtain ⟨_, -, _, _, _, _, rfl, hslot, -⟩ := stepController_eq hcontroller
    refine Thorough.append ?_ _
    refine h.congr rfl rfl (fun hclosed => ?_) hshutdown
    rcases hslot with hsame | habandoned
    · exact hsame ▸ hclosed
    · exact Slot.eq_of_abandon (habandoned ▸ hclosed) (by simp)

/-- The invariant holds after every course. -/
theorem thorough_run {name : String} {config : Config} {turns : List Turn}
    (hrun : (create name config).run turns = some s) :
    Thorough config.maxLineBytes (arrivals turns) s := by
  induction turns using List.reverseRecOn generalizing s with
  | nil =>
    cases hrun
    exact thorough_create name config
  | append_singleton turns t ih =>
    rw [run_concat] at hrun
    obtain ⟨s₀, hrun, hstep⟩ := Option.bind_eq_some_iff.mp hrun
    rw [arrivals_concat]
    exact (ih hrun).step (faithful_run hrun) hstep

/-! ### When a failure of the engine is reported -/

namespace Chronicle

variable {grace : Nat} {c : Chronicle}

/-- A failure that a waiting controller holds back is one that it has heard of, a grace period before. -/
lemma Truthful.heard_of_held (h : Truthful grace c) (hlooking : c.session.controller.isLooking = true)
    {failure : Failure} {deadline : Nat}
    (hheld : c.session.controller.held = some (failure, deadline)) :
    ∃ time, (⟨.processWait, some failure⟩, time) ∈ c.heard ∧ time + grace = deadline := by
  have hmem : (.processWait, failure, deadline) ∈ c.failures grace := by
    rw [h.failures_eq hlooking, hheld]
    exact List.mem_singleton_self _
  obtain ⟨⟨⟨activity, failure?⟩, time⟩, hheard, heq⟩ := List.mem_filterMap.mp hmem
  obtain ⟨failure', rfl, heq⟩ := Option.map_eq_some_iff.mp heq
  cases heq
  exact ⟨time, hheard, rfl⟩

/-- A notice that a listening controller is about to take has been sent. -/
lemma Truthful.kind_of_notice (h : Truthful grace c) (hlistens : c.session.hasListener = true)
    {activity : Activity} {failure : Failure} (hmem : ⟨activity, some failure⟩ ∈ c.session.notices) :
    failure.kind ∈ activity.kinds := by
  refine h.kind_mem ⟨activity, some failure⟩ ?_ failure rfl
  rw [h.posted_eq hlistens]
  exact List.mem_append_right _ hmem

end Chronicle

/-- The controller is about to hear of a failure of the relay, while it holds a failure of the engine
back. -/
def isCutShort (s : Session) : Bool :=
  s.controller.phase = .polling .notices && s.controller.held.isSome &&
    s.notices.head?.any fun n => n.activity = .relay && n.failure?.isSome

/-- A session whose router is past reading by itself has a verdict and has passed all messages on. -/
lemma Thorough.sent_eq (h : Thorough limit arrived s) (hnot : s.isShutdown = false)
    (hrank : 2 ≤ s.router.rank) :
    2 ≤ s.router.rank ∧ verdict limit (readable arrived) (ending? arrived) ≠ .undecided ∧
      s.sent = messages limit (readable arrived) := by
  obtain ⟨v, hconcluded, -⟩ := h.settled hnot hrank
  exact ⟨hrank, hconcluded.verdict_eq ▸ hconcluded.ne_undecided, hconcluded.messages_eq.symm⟩

/-- A controller that gives up with a failure of the engine has held it back for the grace period, or
the router is past reading, unless a failure of the relay cuts this short. -/
lemma rank_of_givesUp {grace : Nat} {c : Chronicle} (htruthful : c.Truthful grace)
    (hfaithful : Faithful limit arrived c.session) (hconsistent : Consistent c.session)
    (hwired : Wired c.session) (hthorough : Thorough limit arrived c.session) {failure : Failure}
    {act : Controller.Act} (hexit : failure.kind = .exit) (hcut : c.session.isCutShort = false)
    (hreason : Controller.GivesUp c.session.view c.session.controller failure act) :
    (∃ time, (⟨.processWait, some failure⟩, time) ∈ c.heard ∧ time + grace ≤ c.session.now) ∨
      2 ≤ c.session.router.rank := by
  have hlooking := hreason.isLooking
  obtain ⟨hlistens, -⟩ := hwired.attentive hlooking
  have hclosed : c.session.slot = .closed → 2 ≤ c.session.router.rank := by
    intro hslot
    have := hthorough.rank_of_closed hslot
    omega
  have hreported : ∀ failure?, ⟨.router, failure?⟩ ∈ c.session.notices → 2 ≤ c.session.router.rank :=
    fun _ hmem => (hfaithful.of_notice _ hmem rfl).2
  cases hreason with
  | closed hphase hslot hheld => exact .inr (hclosed hslot)
  | @ended _ _ rest hphase hnotices hheld =>
    have hnotices : c.session.notices = ⟨.router, none⟩ :: rest := hnotices
    exact .inr (hreported none (by simp [hnotices]))
  | @second _ other _ activity rest hphase hnotices hheld =>
    have hnotices : c.session.notices = ⟨activity, some other⟩ :: rest := hnotices
    cases activity with
    | router => exact .inr (hreported (some other) (by simp [hnotices]))
    | relay => simp [isCutShort, hphase, hheld, hnotices] at hcut
    | processWait =>
      exact absurd rfl (hconsistent.activity_ne_of_held (by simp [hheld])
        (show ⟨.processWait, some other⟩ ∈ c.session.notices by simp [hnotices]))
  | @first _ activity rest hphase hnotices hheld hactivity =>
    have hnotices : c.session.notices = ⟨activity, some failure⟩ :: rest := hnotices
    have hkind := htruthful.kind_of_notice hlistens
      (show ⟨activity, some failure⟩ ∈ c.session.notices by simp [hnotices])
    cases activity with
    | router | relay => simp [hexit, Activity.kinds] at hkind
    | processWait =>
      have hopen := hactivity.resolve_left (by simp)
      exact .inr (hclosed (hconsistent.closed_of_not_open hopen))
  | drained hphase hopen hnotices hsenders hheld =>
    -- Nobody may report any more, and the router is among them.
    have hsenders : c.session.senders = [] := by simpa [view] using hsenders
    refine .inr ?_
    by_contra hrank
    have hmay : c.session.mayReport .router = true := by
      simp only [mayReport, Router.mayReport_eq, decide_eq_true_eq]
      omega
    have hmem := hwired.mem_senders .router hmay
    simp [hsenders] at hmem
  | expired hphase hheld hdeadline =>
    obtain ⟨time, hheard, rfl⟩ := htruthful.heard_of_held hlooking hheld
    exact .inl ⟨time, hheard, hdeadline⟩
  | cancelled hphase hcancelled => cases hexit

/-- However the tasks, the engine and the caller take their turns: when the controller gives up with a
failure of the engine, it has held it back for the grace period, or else the router has come to its
own end and has passed on all messages that the engine's standard output holds before the first line
that is over-long or marked, unless a failure of the relay cuts this short. -/
theorem drained_of_exit (name : String) (config : Config) (turns : List Turn) (c : Chronicle)
    (s' : Session) (failure : Failure) (hrun : (Chronicle.start name config).run turns = some c)
    (hlooking : c.session.controller.isLooking = true)
    (hstep : c.session.step .controller = some s')
    (hdecided : s'.controller.decision? = some (.failed failure)) (hexit : failure.kind = .exit)
    (hcut : c.session.isCutShort = false) :
    (∃ time, (⟨.processWait, some failure⟩, time) ∈ c.heard ∧
      time + config.shutdownGrace * 1000 ≤ c.session.now) ∨
    2 ≤ c.session.router.rank ∧
      verdict config.maxLineBytes (readable (arrivals turns)) (ending? (arrivals turns)) ≠ .undecided ∧
      c.session.sent = messages config.maxLineBytes (readable (arrivals turns)) := by
  have hsession := Chronicle.run_session hrun
  have hwired := wired_run hsession
  have hthorough := thorough_run hsession
  cases moves_of_step hstep with
  | controller hstage hcontroller =>
    obtain ⟨m, hmove, _, _, _, _, hs', -⟩ := stepController_eq hcontroller
    have hdecided : m.controller.decision? = some (.failed failure) := by
      rw [hs'] at hdecided
      exact hdecided
    rcases Controller.givesUp_of_step hmove hdecided with hbefore | hreason
    · rw [Controller.decision_eq_none hlooking] at hbefore
      cases hbefore
    · have hend := rank_of_givesUp (Chronicle.truthful_run hrun) (faithful_run hsession)
        (consistent_run hsession) hwired hthorough hexit hcut hreason
      exact hend.imp_right (hthorough.sent_eq (hwired.attentive hlooking).2)

/-- The engine writes a message and ends with a failure, and the controller holds the failure back
before the router has had a turn. -/
def exitBehindMessage : List Turn :=
  [.world (.start none), .world (.stdout (.data (Bytes.ofText "offer\n"))),
      .world (.exit (.exited 1))] ++
    List.replicate 2 (.watcher false) ++ List.replicate 2 .controller

/-- The controller gives up with the failure of the engine when the router has reported that it has read
all, and the message has been passed on by then. -/
theorem sent_of_drained_exit :
    let config : Config := { binary := .path "engine" }
    let turns :=
      exitBehindMessage ++ [.world (.stdout .eof)] ++ List.replicate 8 .router ++ [.controller]
    ∃ c s', (Chronicle.start "s" config).run turns = some c ∧ c.session.step .controller = some s' ∧
      s'.controller.decision? = some (.failed (.exitCode 1)) ∧
      c.session.sent = messages config.maxLineBytes (readable (arrivals turns)) := by
  intro config turns
  have hend : ((Chronicle.start "s" config).run turns).any (fun c =>
      c.session.controller.isLooking && c.heard = [(⟨.processWait, some (.exitCode 1)⟩, 0)] &&
        c.session.now = 0 && !c.session.isCutShort && (c.session.step .controller).any fun s' =>
          s'.controller.decision? = some (.failed (.exitCode 1))) = true := by
    decide +kernel
  simp only [Option.any_eq_true, Bool.and_eq_true, Bool.not_eq_true', decide_eq_true_eq] at hend
  obtain ⟨c, hrun, ⟨⟨⟨hlooking, hheard⟩, hnow⟩, hcut⟩, s', hstep, hdecided⟩ := hend
  refine ⟨c, s', hrun, hstep, hdecided, ?_⟩
  rcases drained_of_exit "s" config turns c s' _ hrun hlooking hstep hdecided rfl hcut with
    ⟨time, -, hpassed⟩ | ⟨-, -, hsent⟩
  · have hgrace : config.shutdownGrace = 5000 := rfl
    omega
  · exact hsent

/-- A failure of the relay makes the controller give up with the failure of the engine at once.  The
grace period has not begun to pass, the router is still at its start, and the message is never passed
on. -/
theorem records_lost_of_cutShort :
    let config : Config := { binary := .path "engine" }
    let turns := exitBehindMessage ++
      [.controller, .world (.diagnostics (.writeFault (.fails (.described "disk full")) 0)),
        .world (.stderr (.data (Bytes.ofText "diag\n")))] ++ List.replicate 4 .relay
    let rest := List.replicate 2 .controller ++ List.replicate 3 .relay ++ List.replicate 4 .router ++
      List.replicate 3 .pump ++ List.replicate 2 (.watcher false) ++ List.replicate 2 .controller
    ∃ c s' s'', (Chronicle.start "s" config).run turns = some c ∧
      c.session.controller.isLooking = true ∧ c.session.step .controller = some s' ∧
      s'.controller.decision? = some (.failed (.exitCode 1)) ∧
      (∀ n time, (n, time) ∈ c.heard → c.session.now < time + config.shutdownGrace * 1000) ∧
      c.session.router.rank = 0 ∧
      messages config.maxLineBytes (readable (arrivals turns)) = [Bytes.ofText "offer"] ∧
      s'.run rest = some s'' ∧ s''.outcome? = some (.failed (.exitCode 1)) ∧ s''.sent = [] := by
  intro config turns rest
  have hend : ((Chronicle.start "s" config).run turns).any (fun c =>
      c.session.controller.isLooking && c.heard = [(⟨.processWait, some (.exitCode 1)⟩, 0)] &&
        c.session.now = 0 && c.session.router.rank = 0 && (c.session.step .controller).any fun s' =>
          s'.controller.decision? = some (.failed (.exitCode 1)) && (s'.run rest).any fun s'' =>
            s''.outcome? = some (.failed (.exitCode 1)) && s''.sent = []) = true := by
    decide +kernel
  have hmessages :
      messages config.maxLineBytes (readable (arrivals turns)) = [Bytes.ofText "offer"] := by
    decide +kernel
  simp only [Option.any_eq_true, Bool.and_eq_true, decide_eq_true_eq] at hend
  obtain ⟨c, hrun, ⟨⟨⟨hlooking, hheard⟩, hnow⟩, hrank⟩, s', hstep, hdecided, s'', hrest, houtcome,
    hsent⟩ := hend
  refine ⟨c, s', s'', hrun, hlooking, hstep, hdecided, fun n time hmem => ?_, hrank, hmessages, hrest,
    houtcome, hsent⟩
  rw [hheard, List.mem_singleton] at hmem
  obtain ⟨-, rfl⟩ := Prod.mk.inj hmem
  have hgrace : config.shutdownGrace = 5000 := rfl
  omega

end Traversal.Session
