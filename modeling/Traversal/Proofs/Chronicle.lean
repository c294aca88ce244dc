import Mathlib
import Traversal.Proofs.Delivery
import Traversal.Proofs.Reporting

/-!
# What becomes of notices

A `Chronicle` goes along with a course of a session and writes down which notices have got into the
queue, and which of them the controller has taken, and when.

`Chronicle.Truthful` is the invariant of all courses.  As long as the controller waits for the
outcome, the failures that it has heard of are exactly the one that it holds back (`failures_eq`), if
any, and the notices that have got into the queue are those that it has taken and those that are still
there (`posted_eq`).  So a failure that it gives up with is the first one that has been reported
(`decided`).
-/

namespace Traversal.Session

variable {s s' : Session}

/-! ### The caller's wish to cancel -/

/-- Only the caller cancels. -/
lemma isCancelled_of_meet {e : Event} (h : s.meet e = some s') :
    s'.isCancelled = (s.isCancelled || e = .cancel) := by
  unfold meet at h
  cases e with
  | start failure? =>
    simp only at h
    split at h
    · cases failure? <;> cases h <;> simp [forgo, release]
    · cases h
  | discard =>
    simp only at h
    split at h <;> cases h
    simp [forgo, release]
  | abandon =>
    simp only at h
    split at h <;> cases h
    simp [abandon, leave, release]
  | submit payload | share | part =>
    simp only at h
    split at h <;> cases h
    simp
  | stdout a | stderr a =>
    cases h
    split <;> simp
  | cancel | stdin e | diagnostics e | exit status | elapse duration =>
    cases h
    simp

/-- Only the caller cancels. -/
lemma isCancelled_of_step {t : Turn} (h : s.step t = some s') :
    s'.isCancelled = (s.isCancelled || t = .world .cancel) := by
  cases moves_of_step h with
  | world hmeet => simp [isCancelled_of_meet hmeet]
  | router _ hrouter =>
    obtain ⟨_, _, _, _, _, _, _, rfl, -⟩ := stepRouter_eq hrouter
    simp
  | relay _ hrelay =>
    obtain ⟨_, _, _, _, _, _, rfl, -⟩ := stepRelay_eq hrelay
    simp
  | pump _ hpump =>
    obtain ⟨_, _, _, _, rfl, -⟩ := stepPump_eq hpump
    simp
  | watcher _ hwatcher =>
    obtain ⟨_, _, _, _, _, rfl, -⟩ := stepWatcher_eq hwatcher
    simp
  | controller _ hcontroller =>
    obtain ⟨_, -, _, _, _, _, rfl, -⟩ := stepController_eq hcontroller
    simp

/-- A session counts as cancelled when the caller has cancelled it. -/
lemma isCancelled_iff {name : String} {config : Config} {turns : List Turn}
    (hrun : (create name config).run turns = some s) :
    s.isCancelled = true ↔ Turn.world .cancel ∈ turns := by
  induction turns using List.reverseRecOn generalizing s with
  | nil =>
    cases hrun
    simp [create]
  | append_singleton turns t ih =>
    rw [run_concat] at hrun
    obtain ⟨s₀, hrun, hstep⟩ := Option.bind_eq_some_iff.mp hrun
    rw [isCancelled_of_step hstep, Bool.or_eq_true, ih hrun, decide_eq_true_eq, List.mem_append,
      List.mem_singleton]
    exact or_congr_right eq_comm

/-! ### The chronicle -/

/-- The notice that the controller takes in a turn. -/
def heard? (s : Session) : Turn → Option Notice
  | .controller =>
    match s.controller.step s.view with
    | some m => if m.act = .take then s.notices.head? else none
    | none => none
  | _ => none

/-- A session, and what has become of its notices. -/
structure Chronicle where
  session : Session
  /-- The notices that have got into the queue, in order. -/
  posted : List Notice := []
  /-- The notices that the controller has taken from the queue, in order, and when. -/
  heard : List (Notice × Nat) := []

namespace Chronicle

/-- A chronicle at the start. -/
def start (name : String) (config : Config) : Chronicle where
  session := create name config

/-- A chronicle when its session has moved on. -/
def follow (c : Chronicle) (t : Turn) (s : Session) : Chronicle where
  session := s
  posted := c.posted ++ s.notices.drop c.session.notices.length
  heard := c.heard ++ (c.session.heard? t).toList.map fun notice => (notice, c.session.now)

/-- A chronicle after a turn; none if the turn is impossible. -/
def step (c : Chronicle) (t : Turn) : Option Chronicle :=
  (c.session.step t).map (c.follow t)

/-- A chronicle after a course; none if one of its turns is impossible. -/
def run (c : Chronicle) (turns : List Turn) : Option Chronicle :=
  turns.foldlM step c

/-- The session of a chronicle goes its course. -/
lemma session_run (c : Chronicle) (turns : List Turn) :
    (c.run turns).map session = c.session.run turns := by
  induction turns generalizing c with
  | nil => rfl
  | cons t turns ih =>
    simp only [run, Session.run, List.foldlM_cons, Option.bind_eq_bind, step] at ih ⊢
    cases hstep : c.session.step t with
    | none => rfl
    | some s => exact ih (c.follow t s)

/-- The failures that the controller has heard of, who has reported them, and until when each of them
would be held back. -/
def failures (grace : Nat) (c : Chronicle) : List (Activity × Failure × Nat) :=
  c.heard.filterMap fun h => h.1.failure?.map fun failure => (h.1.activity, failure, h.2 + grace)

/-- The first failure that has been reported. -/
def firstFailure? (c : Chronicle) : Option Failure :=
  c.posted.findSome? Notice.failure?

/-- What holds of a chronicle after any course. -/
structure Truthful (grace : Nat) (c : Chronicle) : Prop where
  grace_eq : c.session.controller.grace = grace
  posted_eq : c.session.hasListener = true → c.posted = c.heard.map Prod.fst ++ c.session.notices
  kind_mem : ∀ n ∈ c.posted, ∀ failure, n.failure? = some failure → failure.kind ∈ n.activity.kinds
  /-- The only failure that a waiting controller has heard of is the one that it holds back. -/
  failures_eq : c.session.controller.isLooking = true →
    c.failures grace = c.session.controller.held.toList.map fun held => (.processWait, held)
  /-- It does not hold a failure back when it has seen that the router is gone without a result. -/
  open_of_held : c.session.controller.isLooking = true → c.session.controller.held.isSome = true →
    c.session.controller.isResultOpen = true
  decided : ∀ failure, c.session.controller.decision? = some (.failed failure) →
    failure = .cancelled ∧ c.session.isCancelled = true ∨ c.firstFailure? = some failure

variable {grace : Nat} {c c' : Chronicle}

/-- The invariant holds at the start. -/
lemma truthful_start (name : String) (config : Config) :
    Truthful (config.shutdownGrace * 1000) (start name config) where
  grace_eq := rfl
  posted_eq := by simp [start, create]
  kind_mem := by simp [start]
  failures_eq := by simp [start, create, failures]
  open_of_held := by simp [start, create]
  decided := by simp [start, create, Controller.decision?]

/-- The first failure stays the first one. -/
lemma findSome_append {notices : List Notice} {failure : Failure}
    (h : notices.findSome? Notice.failure? = some failure) (more : List Notice) :
    (notices ++ more).findSome? Notice.failure? = some failure := by
  rw [List.findSome?_append, h, Option.some_or]

/-- The first failure that the controller has heard of. -/
lemma findSome_heard (grace : Nat) (c : Chronicle) :
    (c.heard.map Prod.fst).findSome? Notice.failure? =
      (c.failures grace).head?.map fun f => f.2.1 := by
  rw [failures, List.head?_filterMap, List.findSome?_map]
  induction c.heard with
  | nil => rfl
  | cons h heard ih =>
    simp only [List.findSome?_cons, Function.comp_apply]
    cases h.1.failure? with
    | none => simpa using ih
    | some failure => rfl

/-! ### Turns -/

/-- As long as it is listened to, what the controller has heard of and what is in the queue says which
failure came first. -/
lemma Truthful.firstFailure_eq (h : Truthful grace c) (hlistens : c.session.hasListener = true) :
    c.firstFailure? = ((c.failures grace).head?.map fun f => f.2.1).or
      (c.session.notices.findSome? Notice.failure?) := by
  rw [firstFailure?, h.posted_eq hlistens, List.findSome?_append, findSome_heard grace]

/-- A turn that leaves the controller and the notices alone keeps the invariant. -/
lemma Truthful.idle (h : Truthful grace c) {t : Turn}
    (hcontroller : s'.controller = c.session.controller) (hnotices : s'.notices = c.session.notices) (hlistener : s'.hasListener = c.session.hasListener)
    (hcancelled : c.session.isCancelled = true → s'.isCancelled = true)
    (hturn : c.session.heard? t = none) : Truthful grace (c.follow t s') where
  grace_eq := by simpa [follow, hcontroller] using h.grace_eq
  posted_eq := by simpa [follow, hnotices, hlistener, hturn] using h.posted_eq
  kind_mem := by simpa [follow, hnotices] using h.kind_mem
  failures_eq := by simpa [follow, failures, hcontroller, hturn] using h.failures_eq
  open_of_held := by simpa [follow, hcontroller] using h.open_of_held
  decided failure hdecided := by
    have hdecided : c.session.controller.decision? = some (.failed failure) := by
      simpa [follow, hcontroller] using hdecided
    simp only [follow, firstFailure?, hnotices, List.drop_length, List.append_nil]
    exact (h.decided failure hdecided).imp_left fun hc => ⟨hc.1, hcancelled hc.2⟩

/-- An activity that sends a notice, or does not, keeps the invariant. -/
lemma Truthful.report (h : Truthful grace c) {t : Turn} {a : Activity}
    (hreports : Reports c.session s' a) (hcontroller : s'.controller = c.session.controller)
    (hlistener : s'.hasListener = c.session.hasListener)
    (hcancelled : s'.isCancelled = c.session.isCancelled)
    (hkind : ∀ failure, c.session.report? a = some (some failure) → failure.kind ∈ a.kinds)
    (hturn : c.session.heard? t = none) : Truthful grace (c.follow t s') := by
  have hidle : s'.notices = c.session.notices → Truthful grace (c.follow t s') := fun hnotices =>
    h.idle hcontroller hnotices hlistener (fun hc => hcancelled ▸ hc) hturn
  cases hreports with
  | nothing hnotices hsenders hmay => exact hidle hnotices
  | silence hnotices hsenders hmay => exact hidle hnotices
  | post failure? hreport hnotices hsenders =>
    rcases hnotices with hnotices | hnotices
    · exact hidle hnotices
    · have hposted : (c.follow t s').posted = c.posted ++ [⟨a, failure?⟩] := by
        simp [follow, hnotices]
      have hheard : (c.follow t s').heard = c.heard := by simp [follow, hturn]
      refine
        { grace_eq := by simpa [follow, hcontroller] using h.grace_eq
          posted_eq := fun hlistens => ?_
          kind_mem := fun n hn failure hfailure => ?_
          failures_eq := by simpa [follow, failures, hcontroller, hturn] using h.failures_eq
          open_of_held := by simpa [follow, hcontroller] using h.open_of_held
          decided := fun failure hdecided => ?_ }
      · rw [hposted, hheard, h.posted_eq (hlistener ▸ hlistens)]
        simp [follow, hnotices]
      · rw [hposted] at hn
        rcases List.mem_append.mp hn with hold | hnew
        · exact h.kind_mem n hold failure hfailure
        · obtain rfl := List.mem_singleton.mp hnew
          exact hkind failure (hreport.trans (congrArg some hfailure))
      · have hdecided : c.session.controller.decision? = some (.failed failure) := by
          simpa [follow, hcontroller] using hdecided
        rw [firstFailure?, hposted]
        exact (h.decided failure hdecided).imp (fun hc => ⟨hc.1, hcancelled.trans hc.2⟩)
          fun hfirst => findSome_append hfirst _

/-- What the controller has taken in a step that it takes. -/
lemma heard_of_step {m : Controller.Move} (hmove : s.controller.step s.view = some m) :
    s.heard? .controller = if m.act = .take then s.notices.head? else none := by
  simp [heard?, hmove]

/-- A controller that gives up does so with the first failure, unless it has been cancelled. -/
lemma Truthful.first_of_givesUp (h : Truthful grace c)
    (hlistens : c.session.hasListener = true) {failure : Failure} {act : Controller.Act}
    (hreason : Controller.GivesUp c.session.view c.session.controller failure act) :
    failure = .cancelled ∧ c.session.isCancelled = true ∨ c.firstFailure? = some failure := by
  have hlooking := hreason.isLooking
  have hfailures := h.failures_eq hlooking
  have hheld : ∀ deadline, c.session.controller.held = some (failure, deadline) →
      c.firstFailure? = some failure := by
    intro deadline hheld
    rw [h.firstFailure_eq hlistens, hfailures, hheld]
    rfl
  cases hreason with
  | closed hphase hslot hd => exact .inr (hheld _ hd)
  | ended hphase hnotices hd => exact .inr (hheld _ hd)
  | second hphase hnotices hd => exact .inr (hheld _ hd)
  | first hphase hnotices hd hactivity =>
    have hnotices : c.session.notices = _ := hnotices
    rw [h.firstFailure_eq hlistens, hfailures, hd, hnotices]
    exact .inr rfl
  | drained hphase hopen hnotices hsenders hd => exact .inr (hheld _ hd)
  | expired hphase hd hdeadline => exact .inr (hheld _ hd)
  | cancelled hphase hcancelled => exact .inl ⟨rfl, hcancelled⟩

/-- What the controller takes and what it leaves is what has been in the queue, as long as it listens. -/
lemma heard_append_remaining {m : Controller.Move} (hmove : s.controller.step s.view = some m)
    (hact : m.act ≠ .leave) :
    (s.heard? .controller).toList ++ m.act.remaining s.notices = s.notices := by
  rw [heard_of_step hmove]
  cases hm : m.act with
  | inner | stop | clear => rfl
  | take =>
    simp only [if_true, Controller.Act.remaining]
    cases s.notices <;> rfl
  | leave => exact absurd hm hact

/-- The controller stops listening in one step. -/
lemma hasListener_of_stepController {m : Controller.Move} (h : s.stepController = some s')
    (hmove : s.controller.step s.view = some m) :
    s'.hasListener = true → s.hasListener = true ∧ m.act ≠ .leave := by
  simp only [stepController, hmove, Option.bind_eq_bind, Option.bind_some] at h
  split at h <;> cases h <;> simp [*, leave, release]

/-- A controller that still waits after a step has heard of a failure only to hold it back. -/
lemma Truthful.failures_of_learns (h : Truthful grace c) (s' : Session) {m : Controller.Move}
    (hmove : c.session.controller.step c.session.view = some m)
    (hlooking : c.session.controller.isLooking = true) (hafter : m.controller.isLooking = true) :
    (c.follow .controller s').failures grace =
        m.controller.held.toList.map (fun held => (.processWait, held)) ∧
      (m.controller.held.isSome = true → m.controller.isResultOpen = true) := by
  have hfailures : (c.follow .controller s').failures grace =
      c.failures grace ++ (c.session.heard? .controller).toList.filterMap fun n =>
        n.failure?.map fun failure => (n.activity, failure, c.session.now + grace) := by
    simp [failures, follow, List.filterMap_map]
  rw [hfailures, h.failures_eq hlooking, heard_of_step hmove]
  cases Controller.learns_of_step hmove with
  | nothing hm hact =>
    have hheld : m.controller.held = c.session.controller.held := by rw [hm]
    have hopen : m.controller.isResultOpen = c.session.controller.isResultOpen := by rw [hm]
    rw [hheld, hopen]
    refine ⟨?_, h.open_of_held hlooking⟩
    by_cases htake : m.act = .take
    · obtain ⟨notice, rest, hnotices, hbenign⟩ := hact htake hafter
      rw [if_pos htake, show c.session.notices = _ from hnotices]
      simp [hbenign]
    · rw [if_neg htake]
      exact List.append_nil _
  | closed hslot hheld hm | drained hnotices hsenders hheld hm =>
    simp [hm, Controller.restart, hheld]
  | failed failure rest hopen hnotices hheld hm =>
    -- The failure is the first one that it hears of, since it holds none back.
    rw [hm, hheld, show c.session.notices = _ from hnotices]
    simp [Controller.restart, hopen, h.grace_eq, view]

/-- A step of the controller keeps the invariant. -/
lemma Truthful.controller (h : Truthful grace c) (hwired : Wired c.session)
    (hstep : c.session.stepController = some s') : Truthful grace (c.follow .controller s') := by
  obtain ⟨m, hmove, _, _, _, _, hs', -⟩ := stepController_eq hstep
  have hcontroller : s'.controller = m.controller := by rw [hs']
  have hnotices : s'.notices = m.act.remaining c.session.notices := by rw [hs']
  have hposted : (c.follow .controller s').posted = c.posted := by
    have hle := (m.act.remaining_sublist c.session.notices).length_le
    simp [follow, hnotices, List.drop_eq_nil_of_le hle]
  refine
    { grace_eq := ?_
      posted_eq := fun hlistens => ?_
      kind_mem := by rw [hposted]; exact h.kind_mem
      failures_eq := fun hlooking => ?_
      open_of_held := fun hlooking => ?_
      decided := fun failure hdecided => ?_ }
  · rw [show (c.follow .controller s').session = s' from rfl, hcontroller]
    exact (Controller.grace_of_step hmove).trans h.grace_eq
  · obtain ⟨hbefore, hact⟩ := hasListener_of_stepController hstep hmove hlistens
    rw [hposted, h.posted_eq hbefore, ← heard_append_remaining hmove hact]
    simp [follow, hnotices, Function.comp_def]
  · have hlooking : m.controller.isLooking = true := hcontroller ▸ hlooking
    have hbefore := (Controller.looking_of_step hmove hlooking).1
    rw [(h.failures_of_learns s' hmove hbefore hlooking).1, ← hcontroller]
    rfl
  · have hlooking : m.controller.isLooking = true := hcontroller ▸ hlooking
    have hbefore := (Controller.looking_of_step hmove hlooking).1
    rw [show (c.follow .controller s').session = s' from rfl, hcontroller]
    exact (h.failures_of_learns s' hmove hbefore hlooking).2
  · have hdecided : m.controller.decision? = some (.failed failure) := hcontroller ▸ hdecided
    have hcancelled : s'.isCancelled = c.session.isCancelled := by rw [hs']
    rw [firstFailure?, hposted, show (c.follow .controller s').session = s' from rfl, hcancelled]
    rcases Controller.givesUp_of_step hmove hdecided with hbefore | hreason
    · exact h.decided failure hbefore
    · exact h.first_of_givesUp (hwired.attentive hreason.isLooking).1 hreason

/-- A session whose outcome nobody waits for any more keeps the invariant. -/
lemma Truthful.abandon (h : Truthful grace c) :
    Truthful grace (c.follow (.world .abandon) c.session.abandon) where
  grace_eq := h.grace_eq
  posted_eq hlistens := by simp [follow, Session.abandon, leave, release] at hlistens
  kind_mem := by simpa [follow, Session.abandon, leave, release] using h.kind_mem
  failures_eq hlooking := by
    simp [follow, Session.abandon, leave, release, Controller.isLooking] at hlooking
  open_of_held hlooking := by
    simp [follow, Session.abandon, leave, release, Controller.isLooking] at hlooking
  decided failure hdecided := by
    simp [follow, Session.abandon, leave, release, Controller.decision?] at hdecided

/-- A turn keeps the invariant. -/
lemma Truthful.step (h : Truthful grace c) {limit : Nat} {arrived : List Arrival}
    (hfaithful : Faithful limit arrived c.session) (hwired : Wired c.session) {t : Turn}
    (hstep : c.session.step t = some s') : Truthful grace (c.follow t s') := by
  cases moves_of_step hstep with
  | world hmeet =>
    have hcancelled : c.session.isCancelled = true → s'.isCancelled = true := by
      intro hbefore
      simp [isCancelled_of_meet hmeet, hbefore]
    rcases meet_eq hmeet with ⟨a, rfl, rfl⟩ | ⟨rfl, rfl⟩ | ⟨-, _, _, _, _, _, _, _, _, _, rfl, -⟩
    · split <;> exact h.idle rfl rfl rfl id rfl
    · exact h.abandon
    · exact h.idle rfl rfl rfl hcancelled rfl
  | router hstage hrouter =>
    have hreports := reports_of_stepRouter hrouter
    obtain ⟨_, _, _, _, _, _, _, rfl, -⟩ := stepRouter_eq hrouter
    exact h.report hreports rfl rfl rfl (fun _ => hfaithful.kind_of_report) rfl
  | relay hstage hrelay =>
    have hreports := reports_of_stepRelay hrelay
    obtain ⟨_, _, _, _, _, _, rfl, -⟩ := stepRelay_eq hrelay
    exact h.report hreports rfl rfl rfl (fun _ => hfaithful.kind_of_report) rfl
  | pump hstage hpump =>
    obtain ⟨_, _, _, _, rfl, -⟩ := stepPump_eq hpump
    exact h.idle rfl rfl rfl id rfl
  | watcher hstage hwatcher =>
    have hreports := reports_of_stepWatcher hwatcher
    obtain ⟨_, _, _, _, _, rfl, -⟩ := stepWatcher_eq hwatcher
    exact h.report hreports rfl rfl rfl (fun _ => hfaithful.kind_of_report) rfl
  | controller hstage hcontroller => exact h.controller hwired hcontroller

/-- A course with one turn more. -/
lemma run_concat (c : Chronicle) (turns : List Turn) (t : Turn) :
    c.run (turns ++ [t]) = (c.run turns).bind fun c' => c'.step t := by
  simp only [run, List.foldlM_append, List.foldlM_cons, List.foldlM_nil, bind_pure]
  rfl

/-- The session of a chronicle has gone the course. -/
lemma run_session {name : String} {config : Config} {turns : List Turn}
    (hrun : (start name config).run turns = some c) :
    (create name config).run turns = some c.session := by
  rw [show create name config = (start name config).session from rfl, ← session_run, hrun]
  rfl

/-- The invariant holds after every course. -/
theorem truthful_run {name : String} {config : Config} {turns : List Turn}
    (hrun : (start name config).run turns = some c) :
    Truthful (config.shutdownGrace * 1000) c := by
  induction turns using List.reverseRecOn generalizing c with
  | nil =>
    cases hrun
    exact truthful_start name config
  | append_singleton turns t ih =>
    rw [run_concat] at hrun
    obtain ⟨c₀, hbefore, hlast⟩ := Option.bind_eq_some_iff.mp hrun
    obtain ⟨s, hstep, rfl⟩ := Option.map_eq_some_iff.mp hlast
    have hsession := run_session hbefore
    exact (ih hbefore).step (faithful_run hsession) (wired_run hsession) hstep

/-! ### No failure is lost -/

/-- A failure that a waiting controller has heard of is the one that it holds back. -/
lemma Truthful.held_of_heard (h : Truthful grace c) (hlooking : c.session.controller.isLooking = true)
    {n : Notice} {time : Nat} {failure : Failure} (hheard : (n, time) ∈ c.heard)
    (hfailure : n.failure? = some failure) :
    n.activity = .processWait ∧ c.session.controller.held = some (failure, time + grace) := by
  have hmem : (n.activity, failure, time + grace) ∈ c.failures grace :=
    List.mem_filterMap.mpr ⟨_, hheard, by simp [hfailure]⟩
  rw [h.failures_eq hlooking] at hmem
  obtain ⟨held, hheld, heq⟩ := List.mem_map.mp hmem
  obtain ⟨hactivity, rfl⟩ := Prod.mk.inj heq
  exact ⟨hactivity.symm, Option.mem_toList.mp hheld⟩

/-- No activity reports that the caller has cancelled. -/
lemma Truthful.kind_of_firstFailure (h : Truthful grace c) {failure : Failure}
    (hfirst : c.firstFailure? = some failure) : failure.kind ≠ .cancelled := by
  obtain ⟨n, hn, hfailure⟩ := List.exists_of_findSome?_eq_some hfirst
  intro hcancelled
  have hkind := h.kind_mem n hn failure hfailure
  rw [hcancelled] at hkind
  cases hactivity : n.activity <;> simp [hactivity, Activity.kinds] at hkind

/-- Failures are not lost and nothing else ends a session, however the tasks, the engine and the
caller take their turns.  A controller gives up because it has been cancelled, or else with the first
failure that has been reported.  As long as it still waits, a failure that it has heard of is the end
of the engine, which it holds back until the grace period is over.  And if it waits with nothing left
to look at, nobody has reported a failure and there has never been a path. -/
theorem no_failure_lost (name : String) (config : Config) (turns : List Turn) (c : Chronicle)
    (hrun : (start name config).run turns = some c) :
    (∀ failure, c.session.controller.decision? = some (.failed failure) →
      failure = .cancelled ∧ Turn.world .cancel ∈ turns ∨
        failure.kind ≠ .cancelled ∧ c.firstFailure? = some failure) ∧
    (c.session.controller.isLooking = true → ∀ n time failure, (n, time) ∈ c.heard →
      n.failure? = some failure → n.activity = .processWait ∧
        c.session.controller.isResultOpen = true ∧
        c.session.controller.HoldsBack failure (time + config.shutdownGrace * 1000)) ∧
    (c.session.controller.isLooking = true → c.session.controller.isResultOpen = false →
      c.session.controller.isNoticesOpen = false →
        (∀ n ∈ c.posted, n.failure? = none) ∧
        ∀ before after s t, turns = before ++ after → (create name config).run before = some s →
          s.slot ≠ .full t) := by
  have h := truthful_run hrun
  have hsession := run_session hrun
  have hwired := wired_run hsession
  have hheld : c.session.controller.isLooking = true → ∀ n time failure, (n, time) ∈ c.heard →
      n.failure? = some failure → n.activity = .processWait ∧
        c.session.controller.isResultOpen = true ∧
        c.session.controller.HoldsBack failure (time + config.shutdownGrace * 1000) := by
    intro hlooking n time failure hheard hfailure
    obtain ⟨hactivity, hheld⟩ := h.held_of_heard hlooking hheard hfailure
    exact ⟨hactivity, h.open_of_held hlooking (by simp [hheld]), Controller.holdsBack_of_held hheld⟩
  refine ⟨fun failure hdecided => ?_, hheld, fun hlooking hclosed hexhausted => ⟨fun n hn => ?_, ?_⟩⟩
  · rcases h.decided failure hdecided with ⟨hcancelled, hwish⟩ | hfirst
    · exact .inl ⟨hcancelled, (isCancelled_iff hsession).mp hwish⟩
    · exact .inr ⟨h.kind_of_firstFailure hfirst, hfirst⟩
  · -- Every notice has been taken, and a failure among them would have kept the slot from being closed.
    have hposted := h.posted_eq (hwired.attentive hlooking).1
    rw [(hwired.exhausted hexhausted).1, List.append_nil] at hposted
    rw [hposted] at hn
    obtain ⟨⟨n, time⟩, hheard, rfl⟩ := List.mem_map.mp hn
    cases hfailure : n.failure? with
    | none => rfl
    | some failure =>
      obtain ⟨-, hopen, -⟩ := hheld hlooking n time failure hheard hfailure
      rw [hclosed] at hopen
      cases hopen
  · rintro before after s t rfl hbefore hslot
    have hafter : s.run after = some c.session := by
      rw [run_append, hbefore] at hsession
      exact hsession
    have hfull := slot_of_run hafter hslot
    rw [(consistent_run hsession).closed_of_not_open hclosed] at hfull
    cases hfull

/-- The engine ends with a failure at a time, and the controller holds it back until the grace period is
over. -/
def holdingCourse : List Turn :=
  [.world (.start none), .world (.elapse 3), .world (.exit (.exited 1))] ++
    List.replicate 2 (.watcher false) ++ List.replicate 2 .controller

/-- The engine and its streams end well, and the controller has nothing left to look at. -/
def quietCourse : List Turn :=
  [.world (.start none), .world (.stdout .eof), .world (.stderr .eof), .world (.exit (.exited 0))] ++
    List.replicate 7 .router ++ List.replicate 8 .relay ++ List.replicate 4 (.watcher false) ++
    List.replicate 9 .controller

/-- A failure of the engine is held back and then given up with, and a session that nothing has happened
to waits until it is cancelled. -/
theorem failures_of_held_exit :
    (∃ c, (start "s" { binary := .path "engine" }).run holdingCourse = some c ∧
      c.session.controller.HoldsBack (.exitCode 1) 5000003) ∧
    (∃ c, (start "s" { binary := .path "engine" }).run
        (holdingCourse ++ [.world (.elapse 5000000)] ++ List.replicate 3 .controller) = some c ∧
      c.session.controller.decision? = some (.failed (.exitCode 1)) ∧
      c.firstFailure? = some (.exitCode 1)) ∧
    (∃ c, (start "s" { binary := .path "engine" }).run quietCourse = some c ∧
      c.posted.length = 3 ∧ ∀ n ∈ c.posted, n.failure? = none) := by
  have hholding : ((start "s" { binary := .path "engine" }).run holdingCourse).any (fun c =>
      c.session.controller.isLooking && c.heard = [(⟨.processWait, some (.exitCode 1)⟩, 3)]) = true := by
    decide +kernel
  have hexpired : ((start "s" { binary := .path "engine" }).run
      (holdingCourse ++ [.world (.elapse 5000000)] ++ List.replicate 3 .controller)).any (fun c =>
        c.session.controller.decision? = some (.failed (.exitCode 1))) = true := by
    decide +kernel
  have hquiet : ((start "s" { binary := .path "engine" }).run quietCourse).any (fun c =>
      c.session.controller.isLooking && !c.session.controller.isResultOpen &&
        !c.session.controller.isNoticesOpen && c.posted.length = 3) = true := by
    decide +kernel
  simp only [Option.any_eq_true, Bool.and_eq_true, Bool.not_eq_true', decide_eq_true_eq]
    at hholding hexpired hquiet
  obtain ⟨c₁, hrun₁, hlooking₁, hheard⟩ := hholding
  obtain ⟨c₂, hrun₂, hdecided⟩ := hexpired
  obtain ⟨c₃, hrun₃, ⟨⟨hlooking₃, hresult⟩, hnotices⟩, hposted⟩ := hquiet
  refine ⟨⟨c₁, hrun₁, ?_⟩, ⟨c₂, hrun₂, hdecided, ?_⟩, ⟨c₃, hrun₃, hposted, ?_⟩⟩
  · have hmem : (⟨.processWait, some (.exitCode 1)⟩, 3) ∈ c₁.heard := by
      rw [hheard]
      exact List.mem_singleton_self _
    exact ((no_failure_lost _ _ _ c₁ hrun₁).2.1 hlooking₁ _ _ _ hmem rfl).2.2
  · rcases (no_failure_lost _ _ _ c₂ hrun₂).1 _ hdecided with ⟨hcancelled, -⟩ | ⟨-, hfirst⟩
    · cases hcancelled
    · exact hfirst
  · exact ((no_failure_lost _ _ _ c₃ hrun₃).2.2 hlooking₃ hresult hnotices).1

end Chronicle
end Traversal.Session
