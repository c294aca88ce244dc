import Mathlib
import Traversal.Proofs.SessionStep

/-!
# Courses of a session

`Session.Faithful` is the invariant of all courses of a session.  It joins the relation of the router to
the engine's standard output with what the result slot, the notices and the controller know of it: a
path, wherever it has got to, is the verdict of the stream, and so is every failure to decode a record.
The failures of the other tasks are of other kinds.

Each task has a lemma of its own that says how its steps keep the invariant, and `faithful_run` puts them
together.
-/

namespace Traversal.Session

open Router Arrival

/-! ### Warranted outcomes -/

variable {limit : Nat} {arrived : List Arrival} {s s' : Session}

/-- The engine's standard output has this verdict, and the router is past reading. -/
def Settled (limit : Nat) (arrived : List Arrival) (s : Session) (v : Verdict) : Prop :=
  Concluded limit arrived s.sent v ∧ 2 ≤ s.router.rank

/-- The engine's standard output warrants an outcome: a path is its verdict, and so is a failure to
decode a record. -/
def Warranted (limit : Nat) (arrived : List Arrival) (s : Session) : Outcome → Prop
  | .connected t => Settled limit arrived s (.connected t)
  | .failed failure => failure.kind = .decode → Settled limit arrived s (.reported (some failure))

/-- What holds of a session after any course in which this has arrived on the engine's standard output. -/
structure Faithful (limit : Nat) (arrived : List Arrival) (s : Session) : Prop where
  follows : s.router.Follows limit arrived s.sent s.stdout
  rank_of_released : Asset.stdout ∈ s.released → 3 ≤ s.router.rank
  of_slot : ∀ t, s.slot = .full t → Settled limit arrived s (.connected t)
  /-- A notice of the router is the verdict. -/
  of_notice : ∀ n ∈ s.notices, n.activity = .router → Settled limit arrived s (.reported n.failure?)
  /-- The other tasks do not decode records. -/
  of_other : ∀ n ∈ s.notices, n.activity ≠ .router →
    ∀ failure, n.failure? = some failure → failure.kind ≠ .decode
  of_relay : ∀ failure, s.relay.phase = .posting (some failure) → failure.kind = .io
  of_watcher : ∀ failure, s.watcher.phase = .posting (some failure) → failure.kind = .exit
  of_held : ∀ failure deadline, s.controller.held = some (failure, deadline) → failure.kind ≠ .decode
  of_decision : ∀ outcome, s.controller.decision? = some outcome → Warranted limit arrived s outcome
  done_of_joined : s.controller.hasJoined = true → s.areTasksDone = true

/-- The invariant holds at the start. -/
lemma faithful_create (name : String) (config : Config) :
    Faithful config.maxLineBytes [] (create name config) where
  follows := follows_start config.maxLineBytes
  rank_of_released := by simp [create]
  of_slot := by simp [create]
  of_notice := by simp [create]
  of_other := by simp [create]
  of_relay := by simp [create]
  of_watcher := by simp [create]
  of_held := by simp [create]
  of_decision := by simp [create, Controller.decision?]
  done_of_joined := by simp [create, Controller.hasJoined]

/-- A stream with a verdict does not have another one. -/
lemma Settled.unique {v v' : Verdict} (h : Settled limit arrived s v)
    (h' : Settled limit arrived s v') : v = v' :=
  h.1.verdict_eq.symm.trans h'.1.verdict_eq

/-- As long as the router reads, there is no verdict. -/
lemma Settled.rank_ge {v : Verdict} (h : Settled limit arrived s v) : ¬ s.router.rank < 2 :=
  Nat.not_lt.mpr h.2

/-- An outcome is warranted by whatever settles the same verdicts. -/
lemma Warranted.mono {arrived' : List Arrival} {outcome : Outcome}
    (h : Warranted limit arrived s outcome)
    (hkeep : ∀ v, Settled limit arrived s v → Settled limit arrived' s' v) :
    Warranted limit arrived' s' outcome := by
  cases outcome with
  | connected t => exact hkeep _ h
  | failed failure => exact fun hkind => hkeep _ (h hkind)

/-- All tasks are done if each of them is. -/
lemma areTasksDone_iff : s.areTasksDone = true ↔ s.router.phase = .done ∧ s.relay.phase = .done ∧
    s.pump.phase = .done ∧ s.watcher.phase = .done := by
  simp [areTasksDone, Router.isDone, Relay.isDone, Pump.isDone, Watcher.isDone, and_assoc]

/-- While a task is not done, the controller has not waited for all of them. -/
lemma Faithful.not_joined (h : Faithful limit arrived s) (hmoving : ¬ s.areTasksDone = true) :
    ¬ s.controller.hasJoined = true :=
  fun hjoined => hmoving (h.done_of_joined hjoined)

/-! ### Steps of the tasks -/

/-- A step of the relay keeps the invariant. -/
lemma Faithful.relay (h : Faithful limit arrived s) (hstep : s.stepRelay = some s') :
    Faithful limit arrived s' := by
  have hmoving : ¬ s.areTasksDone = true := fun hdone => by
    simp [stepRelay, Relay.step, areTasksDone_iff.mp hdone] at hstep
  obtain ⟨_, _, _, more, _, _, rfl, hkind, hmore, hreleased⟩ := stepRelay_eq hstep
  exact
    { h with
      rank_of_released := fun hr => h.rank_of_released (hreleased hr)
      of_notice := fun n hn hrouter => by
        rcases List.mem_append.mp hn with hold | hnew
        · exact h.of_notice n hold hrouter
        · simp [(hmore n hnew).1] at hrouter
      of_other := fun n hn hother failure hfailure => by
        rcases List.mem_append.mp hn with hold | hnew
        · exact h.of_other n hold hother failure hfailure
        · simp [h.of_relay failure (hfailure ▸ (hmore n hnew).2)]
      of_relay := hkind
      done_of_joined := fun hjoined => absurd hjoined (h.not_joined hmoving) }

/-- A step of the pump keeps the invariant. -/
lemma Faithful.pump (h : Faithful limit arrived s) (hstep : s.stepPump = some s') :
    Faithful limit arrived s' := by
  have hmoving : ¬ s.areTasksDone = true := fun hdone => by
    simp [stepPump, Pump.step, areTasksDone_iff.mp hdone] at hstep
  obtain ⟨_, _, _, _, rfl, hreleased⟩ := stepPump_eq hstep
  exact
    { h with
      rank_of_released := fun hr => h.rank_of_released (hreleased hr)
      done_of_joined := fun hjoined => absurd hjoined (h.not_joined hmoving) }

/-- A step of the watcher keeps the invariant. -/
lemma Faithful.watcher (h : Faithful limit arrived s) {prefersShutdown : Bool}
    (hstep : s.stepWatcher prefersShutdown = some s') : Faithful limit arrived s' := by
  have hmoving : ¬ s.areTasksDone = true := fun hdone => by
    simp [stepWatcher, Watcher.step, areTasksDone_iff.mp hdone] at hstep
  obtain ⟨_, _, _, more, _, rfl, hkind, hmore⟩ := stepWatcher_eq hstep
  have hown : ∀ n ∈ more, n.activity = .processWait ∧ s.watcher.phase = .posting n.failure? := by
    rcases hmore with ⟨rfl, -⟩ | ⟨⟨failure?, rfl, hphase⟩, -⟩
    · simp
    · simp [hphase]
  exact
    { h with
      of_notice := fun n hn hrouter => by
        rcases List.mem_append.mp hn with hold | hnew
        · exact h.of_notice n hold hrouter
        · simp [(hown n hnew).1] at hrouter
      of_other := fun n hn hother failure hfailure => by
        rcases List.mem_append.mp hn with hold | hnew
        · exact h.of_other n hold hother failure hfailure
        · simp [h.of_watcher failure (hfailure ▸ (hown n hnew).2)]
      of_watcher := hkind
      done_of_joined := fun hjoined => absurd hjoined (h.not_joined hmoving) }

/-- A router that moves keeps the invariant if it keeps to its stream and to its verdict. -/
lemma Faithful.move (h : Faithful limit arrived s) (hmoving : ¬ s.areTasksDone = true) {r : Router}
    {stdout : Source} {sentRev : List Bytes} {slot : Slot}
    (hfollows : r.Follows limit arrived sentRev.reverse stdout)
    (hkeep : ∀ v, Settled limit arrived s v →
      Concluded limit arrived sentRev.reverse v ∧ 2 ≤ r.rank)
    (hslot : ∀ t, slot = .full t →
      s.slot = .full t ∨ Concluded limit arrived sentRev.reverse (.connected t) ∧ 2 ≤ r.rank)
    (hreleased : 3 ≤ s.router.rank → 3 ≤ r.rank) :
    Faithful limit arrived { s with router := r, stdout := stdout, sentRev := sentRev, slot := slot } :=
  { h with
    follows := hfollows
    rank_of_released := fun hr => hreleased (h.rank_of_released hr)
    of_slot := fun t ht => (hslot t ht).elim (fun hold => hkeep _ (h.of_slot t hold)) id
    of_notice := fun n hn hrouter => hkeep _ (h.of_notice n hn hrouter)
    of_decision := fun outcome ho => (h.of_decision outcome ho).mono hkeep
    done_of_joined := fun hjoined => absurd hjoined (h.not_joined hmoving) }

/-- A step of the router keeps the invariant. -/
lemma Faithful.router (h : Faithful limit arrived s) (hstep : s.stepRouter = some s') :
    Faithful limit arrived s' := by
  simp only [stepRouter, Option.bind_eq_bind, Option.bind_eq_some_iff] at hstep
  obtain ⟨⟨r, stdout, act⟩, hmove, hstep⟩ := hstep
  have hmoving : ¬ s.areTasksDone = true := fun hdone =>
    Router.phase_ne_done_of_step hmove (areTasksDone_iff.mp hdone).1
  have hfollows := h.follows.step hmove
  have hrank := rank_of_step hmove
  -- Before the end of its reading, nothing is settled that could be lost.
  have hreading : s.router.rank < 2 → ∀ sent v, Settled limit arrived s v →
      Concluded limit arrived sent v ∧ 2 ≤ r.rank := fun hr _ _ hv => absurd hr hv.rank_ge
  cases act with
  | inner =>
    cases hstep
    obtain ⟨hbefore, -⟩ := hrank
    exact h.move hmoving hfollows (hreading (by omega) _) (fun _ ht => .inl ht) (by omega)
  | forward message =>
    cases hstep
    obtain ⟨hbefore, -⟩ := hrank
    have hfollows : r.Follows limit arrived (s.sent ++ [message]) stdout := hfollows
    exact h.move hmoving (by rw [List.reverse_cons]; exact hfollows) (hreading (by omega) _)
      (fun _ ht => .inl ht) (by omega)
  | deliver t =>
    cases hstep
    obtain ⟨hbefore, hafter⟩ := hrank
    refine h.move hmoving hfollows.2 (hreading (by omega) _) (fun t' ht' => ?_) (by omega)
    rcases s.slot.deliver_cases t with ⟨hsame, -⟩ | ⟨-, hfull⟩
    · exact .inl (hsame ▸ ht')
    · obtain rfl : t = t' := by simpa [hfull] using ht'
      exact .inr ⟨hfollows.1, hafter.ge⟩
  | post failure? =>
    obtain ⟨hbefore, hafter⟩ := hrank
    have hbase := h.move hmoving hfollows.2 (hreading (by omega) _) (fun _ ht => .inl ht) (by omega)
    rcases post_cases hstep with rfl | rfl
    · exact hbase
    · exact { hbase with
        of_notice := fun n hn => by
          rcases List.mem_append.mp hn with hold | hnew
          · exact hbase.of_notice n hold
          · rw [List.mem_singleton.mp hnew]
            exact fun _ => ⟨hfollows.1, hafter.ge⟩
        of_other := fun n hn => by
          rcases List.mem_append.mp hn with hold | hnew
          · exact hbase.of_other n hold
          · rw [List.mem_singleton.mp hnew]
            exact fun hother => absurd rfl hother }
  | release hold =>
    have hfollows : r.Follows limit arrived s.sent stdout := hfollows
    have hle : s.router.rank ≤ r.rank := by
      cases hold with
      | stdout => exact hrank.1.le.trans ((Nat.le_succ 2).trans hrank.2.ge)
      | notices => exact hrank.1.le.trans ((Nat.le_succ 3).trans hrank.2.ge)
      | slot => exact hrank.1.le.trans ((Nat.le_succ 4).trans hrank.2.ge)
    have hkeep : ∀ v, Settled limit arrived s v →
        Concluded limit arrived s.sentRev.reverse v ∧ 2 ≤ r.rank :=
      fun v hv => ⟨hv.1, hv.2.trans hle⟩
    cases hold with
    | stdout =>
      cases hstep
      have hbase := h.move hmoving hfollows hkeep (fun _ ht => .inl ht) hle.trans'
      exact { hbase with rank_of_released := fun _ => hrank.2.ge }
    | notices =>
      cases hstep
      have hbase := h.move hmoving hfollows hkeep (fun _ ht => .inl ht) hle.trans'
      exact { hbase with }
    | slot =>
      cases hstep
      refine h.move hmoving hfollows hkeep (fun t ht => .inl ?_) hle.trans'
      rcases s.slot.release_cases with ⟨hsame, -⟩ | ⟨-, hclosed⟩
      · exact hsame ▸ ht
      · simp [hclosed] at ht

/-! ### Steps of the controller -/

/-- A controller that goes on waiting keeps the invariant. -/
lemma Faithful.wait (h : Faithful limit arrived s) {c : Controller} (hlooking : c.isLooking = true)
    (hheld : ∀ failure deadline, c.held = some (failure, deadline) → failure.kind ≠ .decode) :
    Faithful limit arrived { s with controller := c } :=
  { h with
    of_held := hheld
    of_decision := fun outcome ho => by
      rw [Controller.decision_eq_none hlooking] at ho
      cases ho
    done_of_joined := fun hjoined => by
      rw [Controller.hasJoined_eq_false (Controller.decision_eq_none hlooking)] at hjoined
      cases hjoined }

/-- A controller that decides on a warranted outcome keeps the invariant. -/
lemma Faithful.decide (h : Faithful limit arrived s) {outcome : Outcome}
    (hwarranted : Warranted limit arrived s outcome) :
    Faithful limit arrived { s with controller := s.controller.decide outcome } :=
  { h with
    of_decision := fun o ho => by
      obtain rfl : outcome = o := Option.some.inj ho
      exact hwarranted
    done_of_joined := fun hjoined => by simp [Controller.hasJoined, Controller.decide] at hjoined }

/-- A failure that the controller gives up with is warranted. -/
lemma Faithful.warranted (h : Faithful limit arrived s) {failure : Failure} {act : Controller.Act}
    (hreason : Controller.GivesUp s.view s.controller failure act) :
    Warranted limit arrived s (.failed failure) := by
  intro hkind
  cases hreason with
  | closed hphase hslot hheld => exact absurd hkind (h.of_held _ _ hheld)
  | ended hphase hnotices hheld => exact absurd hkind (h.of_held _ _ hheld)
  | second hphase hnotices hheld => exact absurd hkind (h.of_held _ _ hheld)
  | @first _ activity rest hphase hnotices hheld hactivity =>
    have hmem : ⟨activity, some failure⟩ ∈ s.notices := by
      rw [show s.notices = _ from hnotices]
      exact List.mem_cons_self ..
    by_cases hrouter : activity = .router
    · exact h.of_notice _ hmem hrouter
    · exact absurd hkind (h.of_other _ hmem hrouter failure rfl)
  | drained hphase hopen hnotices hsenders hheld => exact absurd hkind (h.of_held _ _ hheld)
  | expired hphase hheld hdeadline => exact absurd hkind (h.of_held _ _ hheld)
  | cancelled hphase hcancelled => cases hkind

/-- What the controller finds keeps the invariant. -/
lemma Faithful.find (h : Faithful limit arrived s) {m : Controller.Move}
    (hfinding : Controller.Finding s.view s.controller m) :
    Faithful limit arrived { s with controller := m.controller } := by
  cases hfinding with
  | look hbefore hafter hact hheld hopen hconnect =>
    exact h.wait hafter (by rw [hheld]; exact h.of_held)
  | hear notice rest hphase hnotices hafter hact hheld hopen =>
    refine h.wait (by simp [Controller.isLooking, hafter]) fun failure deadline hnew => ?_
    rcases hheld with hsame | ⟨-, hactivity, failure', hfailure, hset⟩
    · exact h.of_held failure deadline (hsame ▸ hnew)
    · have hmem : notice ∈ s.notices := by
        rw [show s.notices = _ from hnotices]
        exact List.mem_cons_self ..
      obtain ⟨rfl, -⟩ : failure' = failure ∧ s.view.now + s.controller.grace = deadline := by
        simpa [hset] using hnew
      exact h.of_other notice hmem (by simp [hactivity]) failure' hfailure
  | connect t hphase hslot hm =>
    subst hm
    exact h.decide (h.of_slot t hslot)
  | giveUp failure act hreason hm =>
    subst hm
    exact h.decide (h.warranted hreason)
  | windUp outcome hbefore hafter hact hheld hopen hjoined =>
    exact
      { h with
        of_held := by rw [hheld]; exact h.of_held
        of_decision := fun o ho => by
          obtain rfl : outcome = o := Option.some.inj (hafter.symm.trans ho)
          exact h.of_decision outcome hbefore
        done_of_joined := fun hj => (hjoined hj).elim h.done_of_joined id }

/-- A step of the controller keeps the invariant. -/
lemma Faithful.controller (h : Faithful limit arrived s) (hstep : s.stepController = some s') :
    Faithful limit arrived s' := by
  obtain ⟨m, hmove, _, _, slot, _, rfl, hslot, hreleased⟩ := stepController_eq hstep
  have hsub : m.act.remaining s.notices ⊆ s.notices := (m.act.remaining_sublist s.notices).subset
  exact
    { h.find (Controller.finding_of_step hmove) with
      rank_of_released := fun hr => h.rank_of_released (hreleased hr)
      of_slot := fun t ht => h.of_slot t (by
        rcases hslot with hsame | habandoned
        · exact hsame ▸ ht
        · exact Slot.eq_of_abandon (habandoned ▸ ht) (by simp))
      of_notice := fun n hn => h.of_notice n (hsub hn)
      of_other := fun n hn => h.of_other n (hsub hn) }

/-! ### Events -/

/-- What arrives on the engine's standard output keeps the invariant. -/
lemma Faithful.arrive (h : Faithful limit arrived s) (a : Arrival) :
    Faithful limit (arrived ++ [a])
      (if s.hasReleased .stdout then s else { s with stdout := s.stdout.arrive a }) := by
  have hkeep : ∀ v, Settled limit arrived s v → Settled limit (arrived ++ [a]) s v :=
    fun _ hv => ⟨hv.1.append [a], hv.2⟩
  by_cases hreleased : s.hasReleased .stdout = true
  · rw [if_pos hreleased]
    -- What arrives is lost, but the router is past reading.
    have hrank := h.rank_of_released (by simpa [hasReleased] using hreleased)
    exact
      { h with
        follows := h.follows.append_of_rank (by omega) [a] _
        of_slot := fun t ht => hkeep _ (h.of_slot t ht)
        of_notice := fun n hn hrouter => hkeep _ (h.of_notice n hn hrouter)
        of_decision := fun outcome ho => (h.of_decision outcome ho).mono hkeep }
  · rw [if_neg hreleased]
    exact
      { h with
        follows := h.follows.arrive a
        of_slot := fun t ht => hkeep _ (h.of_slot t ht)
        of_notice := fun n hn hrouter => hkeep _ (h.of_notice n hn hrouter)
        of_decision := fun outcome ho => (h.of_decision outcome ho).mono hkeep }

/-- A session whose outcome nobody waits for any more keeps the invariant. -/
lemma Faithful.abandon (h : Faithful limit arrived s) : Faithful limit arrived s.abandon :=
  { h with
    rank_of_released := fun hr =>
      h.rank_of_released (by simpa [Session.abandon, leave, release] using hr)
    of_slot := fun _ ht => h.of_slot _ (Slot.eq_of_abandon ht (by simp))
    of_notice := fun n hn => by simp [Session.abandon, leave, release] at hn
    of_other := fun n hn => by simp [Session.abandon, leave, release] at hn
    of_decision := fun outcome ho => by
      simp [Session.abandon, leave, release, Controller.decision?] at ho
    done_of_joined := fun hjoined => by
      simp [Session.abandon, leave, release, Controller.hasJoined] at hjoined }

/-- Whatever happens around a session keeps the invariant. -/
lemma Faithful.meet (h : Faithful limit arrived s) {e : Event} (hmeet : s.meet e = some s') :
    Faithful limit (arrived ++ (Turn.world e).arrival?.toList) s' := by
  rcases meet_eq hmeet with ⟨a, rfl, rfl⟩ | ⟨rfl, rfl⟩ |
    ⟨hnone, _, _, _, _, _, _, _, _, _, rfl, hreleased, -⟩
  · exact h.arrive a
  · rw [show (Turn.world .abandon).arrival?.toList = [] from rfl, List.append_nil]
    exact h.abandon
  · rw [hnone, Option.toList_none, List.append_nil]
    exact { h with rank_of_released := fun hr => h.rank_of_released (hreleased hr) }

/-- A turn keeps the invariant. -/
theorem Faithful.step (h : Faithful limit arrived s) {t : Turn} (hstep : s.step t = some s') :
    Faithful limit (arrived ++ t.arrival?.toList) s' := by
  have hquiet : t.arrival? = none → Faithful limit arrived s' →
      Faithful limit (arrived ++ t.arrival?.toList) s' := by
    intro hnone h'
    rw [hnone, Option.toList_none, List.append_nil]
    exact h'
  cases moves_of_step hstep with
  | world hmeet => exact h.meet hmeet
  | router _ hrouter => exact hquiet rfl (h.router hrouter)
  | relay _ hrelay => exact hquiet rfl (h.relay hrelay)
  | pump _ hpump => exact hquiet rfl (h.pump hpump)
  | watcher _ hwatcher => exact hquiet rfl (h.watcher hwatcher)
  | controller _ hcontroller => exact hquiet rfl (h.controller hcontroller)

/-- The invariant holds after every course. -/
theorem faithful_run {name : String} {config : Config} {turns : List Turn}
    (hrun : (create name config).run turns = some s) :
    Faithful config.maxLineBytes (arrivals turns) s := by
  induction turns using List.reverseRecOn generalizing s with
  | nil =>
    cases hrun
    exact faithful_create name config
  | append_singleton turns t ih =>
    rw [run_concat] at hrun
    obtain ⟨s₀, hrun, hstep⟩ := Option.bind_eq_some_iff.mp hrun
    rw [arrivals_concat]
    exact (ih hrun).step hstep

/-! ### Sessions that are over -/

/-- A session that was started is over when its controller has returned. -/
lemma returned_of_outcome {outcome : Outcome} (hstage : s.stage = .started)
    (houtcome : s.outcome? = some outcome) : s.controller.phase = .returned outcome := by
  simp only [outcome?, hstage, Controller.outcome?] at houtcome
  split at houtcome
  · next hphase =>
    cases houtcome
    exact hphase
  · cases houtcome

/-- When a session that was started is over, its tasks are done. -/
lemma Faithful.done_of_outcome (h : Faithful limit arrived s) {outcome : Outcome}
    (hstage : s.stage = .started) (houtcome : s.outcome? = some outcome) : s.areTasksDone = true :=
  h.done_of_joined (by simp [Controller.hasJoined, returned_of_outcome hstage houtcome])

end Traversal.Session
