import Mathlib
import Traversal.Proofs.SessionCourse

/-!
# Who reports what

Three activities report to the controller.  `Session.Reports` says what one of them can do about
notices in a step: nothing, send the notice that it has been about to send, or let go of the way to
send any.  `reports_of_…` says so of each of them, and `kind_of_report` of which kinds the failures
are that it reports.

`Wired` is what every course keeps of this: whoever may still report counts as a sender, and the
controller takes the notices for exhausted only when there is neither a notice nor a sender left.
-/

namespace Traversal

/-- The kinds of failure that an activity reports. -/
def Activity.kinds : Activity → List FailureKind
  | router => [.io, .decode]
  | relay => [.io]
  | processWait => [.exit]

namespace Router

open Bytes Record

/-- Whether a router may still report. -/
def mayReport (r : Router) : Bool :=
  match r.phase with
  | .releasing .slot => false
  | .done => false
  | _ => true

/-- A router may report until it has let go of the way to do so. -/
lemma mayReport_eq (r : Router) : r.mayReport = decide (r.rank ≤ 3) := by
  unfold mayReport rank
  cases r.phase with
  | waiting | taking | posting failure? | done => rfl
  | releasing hold => cases hold <;> rfl

/-- A router reports what it has been about to report. -/
lemma phase_of_post {isShutdown : Bool} {r : Router} {s : Source} {m : Move} {failure? : Option Failure}
    (h : r.step isShutdown s = some m) (hact : m.act = .post failure?) :
    r.phase = .posting failure? := by
  have hrank := rank_of_step h
  rw [hact] at hrank
  obtain ⟨hbefore, -⟩ := hrank
  cases hphase : r.phase with
  | posting reported? =>
    simp only [step, hphase, Option.some.injEq] at h
    subst h
    cases hact
    rfl
  | waiting | taking | done => simp [rank, hphase] at hbefore
  | releasing hold => cases hold <;> simp [rank, hphase] at hbefore

/-- A report of the router is about a stream or about a record. -/
lemma kind_of_verdict {limit : Nat} {bytes : Bytes} {end? : Option StreamEnd} {failure : Failure}
    (h : verdict limit bytes end? = .reported (some failure)) :
    failure.kind ∈ Activity.kinds .router := by
  have hlong : Verdict.reported (some (.lineTooLong limit)) = .reported (some failure) →
      failure.kind ∈ Activity.kinds .router := by
    intro heq
    cases heq
    simp [Failure.kind, Activity.kinds]
  unfold verdict at h
  split at h
  · unfold judge at h
    split at h
    · exact hlong h
    · next line _ _ _ =>
      cases hdecode : FiveTuple.decode line with
      | ok t => simp [readResult, hdecode, Except.mapError] at h
      | error fault =>
        simp only [readResult, hdecode, Except.mapError, Verdict.reported.injEq, Option.some.injEq] at h
        subst h
        simp [Failure.kind, Activity.kinds]
  · split at h
    · exact hlong h
    · unfold conclude at h
      split at h <;> cases h
      simp [Failure.kind, Activity.kinds]

end Router

namespace Relay

variable {r : Relay} {s : Source} {k : Sink}

/-- Whether a relay may still report. -/
def mayReport (r : Relay) : Bool :=
  match r.phase with
  | .releasing .stderr => false
  | .done => false
  | _ => true

/-- A relay may report as long as it is in its loop. -/
lemma mayReport_of_isCopying (h : r.isCopying = true) : r.mayReport = true := by
  unfold isCopying at h
  unfold mayReport
  split at h <;> simp_all

/-- A relay may report until it lets go of the way to do so. -/
theorem mayReport_of_step {isShutdown : Bool} {m : Move} (h : r.step isShutdown s k = some m) :
    m.relay.mayReport = (r.mayReport && m.act ≠ .release .notices) := by
  rcases step_cases h with
    ⟨hcopying, hact, hafter⟩ | ⟨isStopped, hphase, rfl⟩ | ⟨failure?, hphase, rfl⟩ | ⟨hold, hphase, rfl⟩
  · have hmay : m.relay.mayReport = true := by
      rcases hafter with hafter | ⟨fault, hafter⟩ | ⟨isStopped, hafter, -⟩
      · exact mayReport_of_isCopying hafter
      · simp [mayReport, hafter]
      · simp [mayReport, hafter]
    simp [hmay, mayReport_of_isCopying hcopying, hact]
  · cases isStopped <;> simp [mayReport, hphase]
  · simp [mayReport, hphase]
  · cases hold <;> simp [mayReport, hphase, Hold.next]

end Relay

namespace Watcher

open Engine

/-- Whether a watcher may still report. -/
def mayReport (w : Watcher) : Bool :=
  match w.phase with
  | .releasing .child => false
  | .done => false
  | _ => true

/-- A watcher may report until it lets go of the way to do so. -/
theorem mayReport_of_step {isShutdown prefersShutdown : Bool} {now : Nat} {w : Watcher} {c : Child}
    {m : Move} (h : w.step isShutdown prefersShutdown now c = some m) :
    m.watcher.mayReport = (w.mayReport && m.act ≠ .release .notices) := by
  cases motion_of_step h with
  | yield hphase _ hm =>
    subst hm
    simp [mayReport, hphase, yield]
  | collect status _ hphase hm =>
    subst hm
    rcases hphase with hphase | ⟨_, hphase⟩ | hphase <;> simp [mayReport, hphase, collect]
  | giveUp deadline hphase _ _ hm =>
    subst hm
    simp [mayReport, hphase]
  | kill hphase hm =>
    subst hm
    simp [mayReport, hphase]
  | post failure? hphase hm =>
    subst hm
    simp [mayReport, hphase]
  | release hold hphase hm =>
    subst hm
    cases hold <;> simp [mayReport, hphase, Hold.next]

end Watcher

namespace Session

variable {s s' : Session}

/-- Whether an activity may still report. -/
def mayReport (s : Session) : Activity → Bool
  | .router => s.router.mayReport
  | .relay => s.relay.mayReport
  | .processWait => s.watcher.mayReport

/-- What an activity is about to report. -/
def report? (s : Session) : Activity → Option (Option Failure)
  | .router =>
    match s.router.phase with
    | .posting failure? => some failure?
    | _ => none
  | .relay =>
    match s.relay.phase with
    | .posting failure? => some failure?
    | _ => none
  | .processWait =>
    match s.watcher.phase with
    | .posting failure? => some failure?
    | _ => none

/-- Whoever is about to report may report. -/
lemma mayReport_of_report {a : Activity} {failure? : Option Failure}
    (h : s.report? a = some failure?) : s.mayReport a = true := by
  cases a <;> simp only [report?] at h <;> split at h <;>
    simp_all [mayReport, Router.mayReport, Relay.mayReport, Watcher.mayReport]

/-- What an activity does about notices in a step. -/
inductive Reports (s s' : Session) (a : Activity) : Prop
  /-- Nothing. -/
  | nothing (hnotices : s'.notices = s.notices) (hsenders : s'.senders = s.senders)
      (hmay : s'.mayReport a = s.mayReport a)
  /-- It sends the notice that it has been about to send; nobody may listen. -/
  | post (failure? : Option Failure) (hreport : s.report? a = some failure?)
      (hnotices : s'.notices = s.notices ∨ s'.notices = s.notices ++ [⟨a, failure?⟩])
      (hsenders : s'.senders = s.senders)
  /-- It lets go of the way to send any. -/
  | silence (hnotices : s'.notices = s.notices) (hsenders : s'.senders = s.senders.erase a)
      (hmay : s'.mayReport a = false)

/-- What the router does about notices. -/
lemma reports_of_stepRouter (h : s.stepRouter = some s') : Reports s s' .router := by
  simp only [stepRouter, Option.bind_eq_bind, Option.bind_eq_some_iff] at h
  obtain ⟨⟨router, stdout, act⟩, hmove, h⟩ := h
  have hrank : act.spans s.isShutdown s.router.rank router.rank := Router.rank_of_step hmove
  have hmay : (router.rank ≤ 3 ↔ s.router.rank ≤ 3) → router.mayReport = s.router.mayReport := by
    intro hiff
    simp only [Router.mayReport_eq, hiff]
  cases act with
  | inner =>
    cases h
    obtain ⟨hbefore, hafter⟩ := hrank
    exact .nothing rfl rfl (hmay (by omega))
  | forward message =>
    cases h
    obtain ⟨hbefore, hafter⟩ := hrank
    exact .nothing rfl rfl (hmay (by omega))
  | deliver t =>
    cases h
    obtain ⟨hbefore, hafter⟩ := hrank
    exact .nothing rfl rfl (hmay (by omega))
  | post failure? =>
    have hreport : s.report? .router = some failure? := by
      simp [report?, Router.phase_of_post hmove rfl]
    rcases post_cases h with rfl | rfl
    · exact .post failure? hreport (.inl rfl) rfl
    · exact .post failure? hreport (.inr rfl) rfl
  | release hold =>
    cases hold with
    | stdout =>
      cases h
      obtain ⟨hbefore, hafter⟩ := hrank
      exact .nothing rfl rfl (hmay (by omega))
    | notices =>
      cases h
      obtain ⟨-, hafter⟩ := hrank
      exact .silence rfl rfl (by simp [mayReport, silence, Router.mayReport_eq, hafter])
    | slot =>
      cases h
      obtain ⟨hbefore, hafter⟩ := hrank
      exact .nothing rfl rfl (hmay (by omega))

/-- What the relay does about notices. -/
lemma reports_of_stepRelay (h : s.stepRelay = some s') : Reports s s' .relay := by
  simp only [stepRelay, Option.bind_eq_bind, Option.bind_eq_some_iff] at h
  obtain ⟨⟨relay, stderr, diagnostics, act⟩, hmove, h⟩ := h
  have hmay : relay.mayReport = (s.relay.mayReport && act ≠ .release .notices) :=
    Relay.mayReport_of_step hmove
  cases act with
  | inner =>
    cases h
    exact .nothing rfl rfl (by simpa [mayReport] using hmay)
  | post failure? =>
    have hphase : s.relay.phase = .posting failure? := by
      rcases Relay.report_of_step hmove with ⟨hinner, -⟩ | ⟨-, ⟨reported?, hact, hphase⟩ | ⟨_, hact⟩⟩
      · cases hinner
      · cases hact
        exact hphase
      · cases hact
    have hreport : s.report? .relay = some failure? := by simp [report?, hphase]
    rcases post_cases h with rfl | rfl
    · exact .post failure? hreport (.inl rfl) rfl
    · exact .post failure? hreport (.inr rfl) rfl
  | release hold =>
    cases hold with
    | sink | stderr =>
      cases h
      exact .nothing rfl rfl (by simpa [mayReport, release] using hmay)
    | notices =>
      cases h
      exact .silence rfl rfl (by simpa [mayReport, silence] using hmay)

/-- What the watcher does about notices. -/
lemma reports_of_stepWatcher {prefersShutdown : Bool} (h : s.stepWatcher prefersShutdown = some s') :
    Reports s s' .processWait := by
  simp only [stepWatcher, Option.bind_eq_bind, Option.bind_eq_some_iff] at h
  obtain ⟨⟨watcher, child, act⟩, hmove, h⟩ := h
  have hmay : watcher.mayReport = (s.watcher.mayReport && act ≠ .release .notices) :=
    Watcher.mayReport_of_step hmove
  obtain ⟨-, hspent⟩ := Watcher.report_of_step hmove
  cases act with
  | inner | kill =>
    cases h
    exact .nothing rfl rfl (by simpa [mayReport] using hmay)
  | post failure? =>
    have hreport : s.report? .processWait = some failure? := by simp [report?, hspent.1]
    rcases post_cases h with rfl | rfl
    · exact .post failure? hreport (.inl rfl) rfl
    · exact .post failure? hreport (.inr rfl) rfl
  | release hold =>
    cases hold with
    | notices =>
      cases h
      exact .silence rfl rfl (by simpa [mayReport, silence] using hmay)
    | child =>
      cases h
      exact .nothing rfl rfl (by simpa [mayReport] using hmay)

/-- The kinds of failure that an activity reports. -/
lemma Faithful.kind_of_report {limit : Nat} {arrived : List Arrival} (h : Faithful limit arrived s)
    {a : Activity} {failure : Failure} (hreport : s.report? a = some (some failure)) :
    failure.kind ∈ a.kinds := by
  cases a with
  | router =>
    simp only [report?] at hreport
    split at hreport
    · next reported? hphase =>
      cases hreport
      have hfollows := h.follows
      simp only [Router.Follows, hphase] at hfollows
      exact Router.kind_of_verdict hfollows.verdict_eq
    · cases hreport
  | relay =>
    simp only [report?] at hreport
    split at hreport
    · next reported? hphase =>
      cases hreport
      simp [Activity.kinds, h.of_relay failure hphase]
    · cases hreport
  | processWait =>
    simp only [report?] at hreport
    split at hreport
    · next reported? hphase =>
      cases hreport
      simp [Activity.kinds, h.of_watcher failure hphase]
    · cases hreport

/-! ### Who is a sender -/

/-- What every course keeps of who sends notices and who takes them. -/
structure Wired (s : Session) : Prop where
  mem_senders : ∀ a, s.mayReport a = true → a ∈ s.senders
  /-- When the controller takes the notices for exhausted, they are. -/
  exhausted : s.controller.isNoticesOpen = false → s.notices = [] ∧ s.senders = []
  /-- As long as the controller waits for the outcome, it listens, and nobody is told to stop. -/
  attentive : s.controller.isLooking = true → s.hasListener = true ∧ s.isShutdown = false

/-- The invariant holds at the start. -/
lemma wired_create (name : String) (config : Config) : Wired (create name config) where
  mem_senders a _ := by cases a <;> simp [create, Activity.all]
  exhausted := by simp [create]
  attentive := by simp [create]

/-- An activity that moves keeps the invariant, whatever it does about notices. -/
lemma Wired.report (h : Wired s) {a : Activity} (hreports : Reports s s' a)
    (hother : ∀ b, b ≠ a → s'.mayReport b = s.mayReport b)
    (hcontroller : s'.controller = s.controller) (hlistener : s'.hasListener = s.hasListener)
    (hshutdown : s'.isShutdown = s.isShutdown) : Wired s' := by
  have hattentive : s'.controller.isLooking = true → s'.hasListener = true ∧ s'.isShutdown = false := by
    rw [hcontroller, hlistener, hshutdown]
    exact h.attentive
  have hmem : s'.mayReport a = s.mayReport a → s'.senders = s.senders →
      ∀ b, s'.mayReport b = true → b ∈ s'.senders := by
    intro hmay hsenders b hb
    rw [hsenders]
    by_cases hba : b = a
    · subst hba
      exact h.mem_senders b (hmay ▸ hb)
    · exact h.mem_senders b (hother b hba ▸ hb)
  cases hreports with
  | nothing hnotices hsenders hmay =>
    exact
      { mem_senders := hmem hmay hsenders
        exhausted := by
          rw [hcontroller, hnotices, hsenders]
          exact h.exhausted
        attentive := hattentive }
  | post failure? hreport hnotices hsenders =>
    have hsender := h.mem_senders a (mayReport_of_report hreport)
    refine
      { mem_senders := fun b hb => ?_
        exhausted := fun hclosed => ?_
        attentive := hattentive }
    · by_cases hba : b = a
      · rw [hsenders, hba]
        exact hsender
      · rw [hsenders]
        exact h.mem_senders b (hother b hba ▸ hb)
    · -- Somebody who sends a notice is a sender.
      rw [hcontroller] at hclosed
      rw [(h.exhausted hclosed).2] at hsender
      cases hsender
  | silence hnotices hsenders hmay =>
    refine
      { mem_senders := fun b hb => ?_
        exhausted := fun hclosed => ?_
        attentive := hattentive }
    · by_cases hba : b = a
      · rw [hba, hmay] at hb
        cases hb
      · rw [hsenders]
        exact (List.mem_erase_of_ne hba).mpr (h.mem_senders b (hother b hba ▸ hb))
    · rw [hcontroller] at hclosed
      obtain ⟨hnone, hnobody⟩ := h.exhausted hclosed
      rw [hnotices, hsenders, hnone, hnobody]
      exact ⟨rfl, rfl⟩

/-- A step of the controller that is an inner one, or takes a notice, does nothing to the session
beside. -/
lemma stepController_of_act {m : Controller.Move} (h : s.stepController = some s')
    (hmove : s.controller.step s.view = some m) (hact : m.act = .inner ∨ m.act = .take) :
    s' = { s with controller := m.controller, notices := m.act.remaining s.notices } := by
  simp only [stepController, hmove, Option.bind_eq_bind, Option.bind_some] at h
  obtain ⟨controller, act⟩ := m
  rcases hact with rfl | rfl
  · cases h
    rfl
  · cases h
    rfl

/-- A step of the controller keeps the invariant. -/
lemma Wired.controller (h : Wired s) (hstep : s.stepController = some s') : Wired s' := by
  obtain ⟨m, hmove, _, _, _, _, hs', -⟩ := stepController_eq hstep
  have hrest := (m.act.remaining_sublist s.notices)
  have hattentive : m.controller.isLooking = true → s'.hasListener = true ∧ s'.isShutdown = false := by
    intro hlooking
    obtain ⟨hbefore, hact⟩ := Controller.looking_of_step hmove hlooking
    rw [stepController_of_act hstep hmove hact]
    exact h.attentive hbefore
  have hexhausted : m.controller.isNoticesOpen = false →
      m.act.remaining s.notices = [] ∧ s.senders = [] := by
    have hkeep : s.controller.isNoticesOpen = false →
        m.act.remaining s.notices = [] ∧ s.senders = [] := by
      intro hclosed
      obtain ⟨hnone, hnobody⟩ := h.exhausted hclosed
      exact ⟨List.sublist_nil.mp (hnone ▸ hrest), hnobody⟩
    cases Controller.learns_of_step hmove with
    | nothing hm hact =>
      rw [hm]
      exact hkeep
    | closed hslot hheld hm =>
      rw [show m.controller.isNoticesOpen = s.controller.isNoticesOpen by rw [hm]; rfl]
      exact hkeep
    | drained hnotices hsenders hheld hm =>
      intro _
      have hnone : s.notices = [] := hnotices
      exact ⟨List.sublist_nil.mp (hnone ▸ hrest), by simpa [view] using hsenders⟩
    | failed failure rest hopen hnotices hheld hm =>
      rw [show m.controller.isNoticesOpen = s.controller.isNoticesOpen by rw [hm]; rfl]
      exact hkeep
  subst hs'
  exact ⟨fun b hb => h.mem_senders b (by cases b <;> exact hb), hexhausted, hattentive⟩

/-- A turn keeps the invariant. -/
lemma Wired.step (h : Wired s) {t : Turn} (hstep : s.step t = some s') : Wired s' := by
  cases moves_of_step hstep with
  | world hmeet =>
    rcases meet_eq hmeet with ⟨a, rfl, rfl⟩ | ⟨rfl, rfl⟩ | ⟨-, _, _, _, _, _, _, _, _, _, rfl, -⟩
    · split
      · exact h
      · exact ⟨fun b hb => h.mem_senders b (by cases b <;> exact hb), h.exhausted, h.attentive⟩
    · exact
        { mem_senders := fun b hb => h.mem_senders b (by cases b <;> exact hb)
          exhausted := fun hclosed => ⟨rfl, (h.exhausted hclosed).2⟩
          attentive := fun hlooking => by
            simp [Session.abandon, leave, release, Controller.isLooking] at hlooking }
    · exact ⟨fun b hb => h.mem_senders b (by cases b <;> exact hb), h.exhausted, h.attentive⟩
  | router hstage hrouter =>
    have hreports := reports_of_stepRouter hrouter
    obtain ⟨_, _, _, _, _, _, _, rfl, -⟩ := stepRouter_eq hrouter
    exact h.report hreports (fun b hb => by cases b <;> first | rfl | exact absurd rfl hb) rfl rfl rfl
  | relay hstage hrelay =>
    have hreports := reports_of_stepRelay hrelay
    obtain ⟨_, _, _, _, _, _, rfl, -⟩ := stepRelay_eq hrelay
    exact h.report hreports (fun b hb => by cases b <;> first | rfl | exact absurd rfl hb) rfl rfl rfl
  | pump hstage hpump =>
    obtain ⟨_, _, _, _, rfl, -⟩ := stepPump_eq hpump
    exact ⟨fun b hb => h.mem_senders b (by cases b <;> exact hb), h.exhausted, h.attentive⟩
  | watcher hstage hwatcher =>
    have hreports := reports_of_stepWatcher hwatcher
    obtain ⟨_, _, _, _, _, rfl, -⟩ := stepWatcher_eq hwatcher
    exact h.report hreports (fun b hb => by cases b <;> first | rfl | exact absurd rfl hb) rfl rfl rfl
  | controller hstage hcontroller => exact h.controller hcontroller

/-- The invariant holds after every course. -/
theorem wired_run {name : String} {config : Config} {turns : List Turn}
    (hrun : (create name config).run turns = some s) : Wired s :=
  run_induction (fun _ _ _ h => h.step) hrun (wired_create name config)

end Session
end Traversal
