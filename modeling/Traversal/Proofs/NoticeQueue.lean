import Mathlib
import Traversal.Proofs.Chronicle
import Traversal.Proofs.Mailbox
import Traversal.Proofs.Posting

/-!
# The queue of notices

`Session.handed` are the notices that the tasks hand over in a course, whether or not somebody listens.

Two laws say what becomes of them.  An activity that has handed a notice over is spent, so it hands over
at most one in a whole course (`countP_handed_le`).  And as long as the controller listens, what it takes
in a turn and what is then in the queue is what was in the queue and what is handed over
(`taken_append_notices`).  Hence the controller takes notices in the order in which they are handed over,
and misses none before it has decided (`Chronicle.Heeded`).

The queue has room for more notices than there are activities, so that whoever is about to report does so
in its next turn (`report_proceeds`).
-/

namespace Traversal

/-- A controller that takes a notice still waits for the outcome. -/
lemma Controller.isLooking_of_take {v : Controller.View} {c : Controller} {m : Controller.Move}
    (h : c.step v = some m) (htake : m.act = .take) : c.isLooking = true := by
  cases finding_of_step h with
  | look hbefore hafter hact hheld hopen hconnect => exact hbefore
  | hear notice rest hphase hnotices hafter hact hheld hopen => simp [isLooking, hphase]
  | connect t hphase hslot hm => simp [isLooking, hphase]
  | giveUp failure act hreason hm => exact hreason.isLooking
  | windUp outcome hbefore hafter hact hheld hopen hjoined => exact absurd htake hact

namespace Session

variable {s s' : Session}

/-! ### What is handed over -/

/-- The notices that are handed over in a course, in order. -/
def handed (s : Session) : List Turn → List Notice
  | [] => []
  | t :: turns =>
    match s.step t with
    | none => []
    | some s' => (s.handed? t).toList ++ s'.handed turns

/-- What is handed over in a last turn comes behind all that has been handed over. -/
lemma handed_concat {s₁ : Session} {turns : List Turn} {t : Turn} (hrun : s.run turns = some s₁)
    (hstep : s₁.step t = some s') :
    s.handed (turns ++ [t]) = s.handed turns ++ (s₁.handed? t).toList := by
  induction turns generalizing s with
  | nil =>
    cases hrun
    simp [handed, hstep]
  | cons first turns ih =>
    obtain ⟨s₀, hfirst, hrest⟩ := Option.bind_eq_some_iff.mp hrun
    simp only [List.cons_append, handed, hfirst]
    rw [ih hrest, List.append_assoc]

/-- Whatever the course, an activity hands over at most one notice, and none if it is spent. -/
theorem countP_handed_le (a : Activity) (turns : List Turn) (s : Session) :
    (s.handed turns).countP (fun n => n.activity = a) + (s.isSpent a).toNat ≤ 1 := by
  induction turns generalizing s with
  | nil => simpa [handed] using Bool.toNat_le (s.isSpent a)
  | cons t turns ih =>
    cases hstep : s.step t with
    | none => simpa [handed, hstep] using Bool.toNat_le (s.isSpent a)
    | some s' =>
      have hlater := ih s'
      have hstays := isSpent_of_step hstep a
      have hle : (s.isSpent a).toNat ≤ (s'.isSpent a).toNat := Bool.toNat_le_toNat hstays
      simp only [handed, hstep, List.countP_append]
      cases hhanded : s.handed? t with
      | none =>
        rw [Option.toList_none, List.countP_nil]
        omega
      | some n =>
        rw [Option.toList_some, List.countP_singleton]
        by_cases hown : n.activity = a
        · -- The activity is spent by this one, so that nothing of it is to come.
          obtain ⟨hbefore, hafter⟩ := spent_of_handed hstep hhanded
          rw [hown] at hbefore hafter
          rw [hafter, Bool.toNat_true] at hlater
          rw [hbefore, Bool.toNat_false, hown]
          simp only [decide_true, if_true]
          omega
        · simp only [hown, decide_false, Bool.false_eq_true, if_false]
          omega

/-! ### What becomes of it in a turn -/

/-- Whoever listens after a turn has listened before it. -/
lemma hasListener_of_step {t : Turn} (h : s.step t = some s') (hlistens : s'.hasListener = true) :
    s.hasListener = true := by
  cases moves_of_step h with
  | world hmeet =>
    rcases meet_eq hmeet with ⟨a, rfl, rfl⟩ | ⟨rfl, rfl⟩ | ⟨-, _, _, _, _, _, _, _, _, _, rfl, -⟩
    · split at hlistens <;> exact hlistens
    · cases hlistens
    · exact hlistens
  | router _ hrouter =>
    obtain ⟨_, _, _, _, _, _, _, rfl, -⟩ := stepRouter_eq hrouter
    exact hlistens
  | relay _ hrelay =>
    obtain ⟨_, _, _, _, _, _, rfl, -⟩ := stepRelay_eq hrelay
    exact hlistens
  | pump _ hpump =>
    obtain ⟨_, _, _, _, rfl, -⟩ := stepPump_eq hpump
    exact hlistens
  | watcher _ hwatcher =>
    obtain ⟨_, _, _, _, _, rfl, -⟩ := stepWatcher_eq hwatcher
    exact hlistens
  | controller _ hcontroller =>
    obtain ⟨m, hmove, -⟩ := stepController_eq hcontroller
    exact (Chronicle.hasListener_of_stepController hcontroller hmove hlistens).1

/-- As long as the controller listens, what it takes in a turn and what is in the queue then is what was
in the queue and what is handed over. -/
theorem taken_append_notices {t : Turn} (h : s.step t = some s') (hlistens : s'.hasListener = true) :
    (s.heard? t).toList ++ s'.notices = s.notices ++ (s.handed? t).toList := by
  have hbefore := hasListener_of_step h hlistens
  have htask : ∀ a, t.activity? = some a → s'.notices = s.notices ++ (s.handed? t).toList := by
    intro a hturn
    rw [notices_of_task h hturn, received_eq hbefore]
  cases moves_of_step h with
  | world hmeet =>
    have hsame : s'.notices = s.notices := by
      rcases meet_eq hmeet with ⟨a, rfl, rfl⟩ | ⟨rfl, rfl⟩ | ⟨-, _, _, _, _, _, _, _, _, _, rfl, -⟩
      · split <;> rfl
      · cases hlistens
      · rfl
    rw [hsame]
    exact (List.append_nil _).symm
  | router _ hrouter => exact htask .router rfl
  | relay _ hrelay => exact htask .relay rfl
  | watcher _ hwatcher => exact htask .processWait rfl
  | pump _ hpump =>
    obtain ⟨_, _, _, _, rfl, -⟩ := stepPump_eq hpump
    exact (List.append_nil _).symm
  | controller _ hcontroller =>
    obtain ⟨m, hmove, _, _, _, _, hs', -⟩ := stepController_eq hcontroller
    have hact := (Chronicle.hasListener_of_stepController hcontroller hmove hlistens).2
    have hnotices : s'.notices = m.act.remaining s.notices := by rw [hs']
    rw [hnotices, Chronicle.heard_append_remaining hmove hact]
    exact (List.append_nil _).symm

/-- In the turn in which the controller stops listening, it does not take anything. -/
lemma heard_eq_none (hwired : Wired s) {t : Turn} (h : s.step t = some s')
    (hdeaf : s'.hasListener = false) : s.heard? t = none := by
  cases moves_of_step h with
  | controller _ hcontroller =>
    obtain ⟨m, hmove, -⟩ := stepController_eq hcontroller
    rw [Chronicle.heard_of_step hmove]
    refine if_neg fun htake => ?_
    have hlistens := (hwired.attentive (Controller.isLooking_of_take hmove htake)).1
    rw [stepController_of_act hcontroller hmove (.inr htake)] at hdeaf
    exact absurd hlistens (Bool.eq_false_iff.mp hdeaf)
  | world hmeet | router _ hrouter | relay _ hrelay | pump _ hpump | watcher _ hwatcher => rfl

/-! ### What becomes of it in a course -/

namespace Chronicle

variable {c : Chronicle} {handed : List Notice}

/-- What holds of a chronicle after any course in which these notices have been handed over. -/
structure Heeded (handed : List Notice) (c : Chronicle) : Prop where
  /-- As long as the controller listens, nothing is lost. -/
  kept : c.session.hasListener = true → handed = c.heard.map Prod.fst ++ c.session.notices
  heard_prefix : c.heard.map Prod.fst <+: handed

/-- The invariant holds at the start. -/
lemma heeded_start (name : String) (config : Config) : Heeded [] (start name config) where
  kept _ := rfl
  heard_prefix := List.prefix_rfl

/-- A turn keeps the invariant. -/
lemma Heeded.step (h : Heeded handed c) (hwired : Wired c.session) {t : Turn}
    (hstep : c.session.step t = some s') :
    Heeded (handed ++ (c.session.handed? t).toList) (c.follow t s') := by
  have hheard : (c.follow t s').heard.map Prod.fst =
      c.heard.map Prod.fst ++ (c.session.heard? t).toList := by
    simp [follow, Function.comp_def]
  have hkept : s'.hasListener = true → handed ++ (c.session.handed? t).toList =
      (c.follow t s').heard.map Prod.fst ++ s'.notices := by
    intro hlistens
    rw [h.kept (hasListener_of_step hstep hlistens), hheard, List.append_assoc, List.append_assoc,
      taken_append_notices hstep hlistens]
  refine ⟨hkept, ?_⟩
  cases hlistens : s'.hasListener with
  | true =>
    rw [hkept hlistens]
    exact List.prefix_append _ _
  | false =>
    rw [hheard, heard_eq_none hwired hstep hlistens, Option.toList_none, List.append_nil]
    exact h.heard_prefix.trans (List.prefix_append _ _)

/-- The invariant holds after every course. -/
theorem heeded_run {name : String} {config : Config} {turns : List Turn}
    (hrun : (start name config).run turns = some c) :
    Heeded ((create name config).handed turns) c := by
  induction turns using List.reverseRecOn generalizing c with
  | nil =>
    cases hrun
    exact heeded_start name config
  | append_singleton turns t ih =>
    rw [run_concat] at hrun
    obtain ⟨c₀, hbefore, hlast⟩ := Option.bind_eq_some_iff.mp hrun
    obtain ⟨s, hstep, rfl⟩ := Option.map_eq_some_iff.mp hlast
    have hsession := run_session hbefore
    rw [handed_concat hsession hstep]
    exact (ih hbefore).step (wired_run hsession) hstep

end Chronicle

/-! ### Room for what is handed over -/

/-- No turn changes the settings. -/
lemma config_of_step {t : Turn} (h : s.step t = some s') : s'.config = s.config := by
  cases moves_of_step h with
  | world hmeet =>
    rcases meet_eq hmeet with ⟨a, rfl, rfl⟩ | ⟨rfl, rfl⟩ | ⟨-, _, _, _, _, _, _, _, _, _, rfl, -⟩
    · split <;> rfl
    · rfl
    · rfl
  | router _ hrouter =>
    obtain ⟨_, _, _, _, _, _, _, rfl, -⟩ := stepRouter_eq hrouter
    rfl
  | relay _ hrelay =>
    obtain ⟨_, _, _, _, _, _, rfl, -⟩ := stepRelay_eq hrelay
    rfl
  | pump _ hpump =>
    obtain ⟨_, _, _, _, rfl, -⟩ := stepPump_eq hpump
    rfl
  | watcher _ hwatcher =>
    obtain ⟨_, _, _, _, _, rfl, -⟩ := stepWatcher_eq hwatcher
    rfl
  | controller _ hcontroller =>
    obtain ⟨_, -, _, _, _, _, rfl, -⟩ := stepController_eq hcontroller
    rfl

/-- No course changes the settings. -/
lemma config_of_run {name : String} {config : Config} {turns : List Turn}
    (hrun : (create name config).run turns = some s) : s.config = config :=
  run_induction (P := fun s => s.config = config)
    (fun _ _ _ hbefore hstep => (config_of_step hstep).trans hbefore) hrun rfl

/-- What an activity is about to report is its own matter. -/
lemma report_congr (hrouter : s'.router = s.router) (hrelay : s'.relay = s.relay)
    (hwatcher : s'.watcher = s.watcher) (a : Activity) : s'.report? a = s.report? a := by
  cases a <;> simp only [report?, hrouter, hrelay, hwatcher]

/-- Before a session has been started, nobody is about to report anything. -/
lemma report_of_unstarted {name : String} {config : Config} {turns : List Turn}
    (hrun : (create name config).run turns = some s) (hstage : s.stage ≠ .started) (a : Activity) :
    s.report? a = none := by
  refine run_induction (P := fun s => s.stage ≠ .started → ∀ a, s.report? a = none) ?_ hrun
    (fun _ a => by cases a <;> rfl) hstage a
  intro s t s' hbefore hstep hstage a
  have hnot : s.stage ≠ .started := fun hs => hstage ((stage_of_step hstep (by simp [hs])).trans hs)
  cases moves_of_step hstep with
  | world hmeet =>
    rcases meet_eq hmeet with ⟨_, rfl, rfl⟩ | ⟨rfl, rfl⟩ | ⟨-, _, _, _, _, _, _, _, _, _, rfl, -⟩
    · split <;> exact hbefore hnot _
    · exact hbefore hnot a
    · exact (report_congr rfl rfl rfl a).trans (hbefore hnot a)
  | router hs _ => exact absurd hs hnot
  | relay hs _ => exact absurd hs hnot
  | pump hs _ => exact absurd hs hnot
  | watcher hs _ => exact absurd hs hnot
  | controller hs _ => exact absurd hs hnot

/-- Whoever is about to report does so in its next turn, which it does not have to wait for. -/
theorem report_proceeds (hspare : Spare s) (hstage : s.stage = .started) {t : Turn} {a : Activity}
    {failure? : Option Failure} (hturn : t.activity? = some a) (hreport : s.report? a = some failure?) :
    s.handed? t = some ⟨a, failure?⟩ ∧ (s.step t).isSome = true := by
  cases t with
  | router =>
    obtain rfl : Activity.router = a := Option.some.inj hturn
    simp only [report?] at hreport
    split at hreport <;> cases hreport
    next hphase =>
      refine ⟨by simp [handed?, Router.step, hphase, Router.Act.reported?], ?_⟩
      simp only [step, hstage, if_true, stepRouter, Router.step, hphase, Option.bind_eq_bind,
        Option.bind_some]
      exact post_isSome (by exact hspare.length_le) _ _
  | relay =>
    obtain rfl : Activity.relay = a := Option.some.inj hturn
    simp only [report?] at hreport
    split at hreport <;> cases hreport
    next hphase =>
      refine ⟨by simp [handed?, Relay.step, hphase, Relay.Act.reported?], ?_⟩
      simp only [step, hstage, if_true, stepRelay, Relay.step, hphase, Option.bind_eq_bind,
        Option.bind_some]
      exact post_isSome (by exact hspare.length_le) _ _
  | watcher prefersShutdown =>
    obtain rfl : Activity.processWait = a := Option.some.inj hturn
    simp only [report?] at hreport
    split at hreport <;> cases hreport
    next hphase =>
      refine ⟨by simp [handed?, Watcher.step, hphase, Watcher.Act.reported?], ?_⟩
      simp only [step, hstage, if_true, stepWatcher, Watcher.step, hphase, Option.bind_eq_bind,
        Option.bind_some]
      exact post_isSome (by exact hspare.length_le) _ _
  | pump | controller | world e => cases hturn

/-- Nobody waits for room to report how it ended, however small a queue the settings ask for and in
whatever order the tasks, the engine and the caller take their turns.  Each activity hands over at most
one notice in a whole course, in a turn of its own, and the pump none; so the queue never fills up, and
whoever is about to report does so in its next turn.  The controller takes notices in the order in which
they are handed over, and as long as it waits for the outcome it has taken each of them or will find it in
the queue. -/
theorem Chronicle.posting_never_waits (name : String) (config : Config) (turns : List Turn)
    (c : Chronicle) (hrun : (start name config).run turns = some c) :
    (∀ a, ((create name config).handed turns).countP (fun n => n.activity = a) ≤ 1) ∧
    (∀ t n, c.session.handed? t = some n → t.activity? = some n.activity) ∧
    (∀ s', c.session.step .pump = some s' → s'.notices = c.session.notices) ∧
    c.session.config.noticeQueueSize = max config.errorQueueCapacity 10 ∧
    c.session.notices.length < c.session.config.noticeQueueSize ∧
    (∀ t a failure?, t.activity? = some a → c.session.report? a = some failure? →
      c.session.handed? t = some ⟨a, failure?⟩ ∧ (c.session.step t).isSome = true) ∧
    c.heard.map Prod.fst <+: (create name config).handed turns ∧
    (c.session.controller.isLooking = true →
      (create name config).handed turns = c.heard.map Prod.fst ++ c.session.notices) := by
  have hsession := run_session hrun
  have hspare := spare_run hsession
  have hheeded := heeded_run hrun
  have honce : ∀ a, ((create name config).handed turns).countP (fun n => n.activity = a) ≤ 1 := by
    intro a
    exact (Nat.le_add_right _ _).trans (countP_handed_le a turns (create name config))
  have hpump : ∀ s', c.session.step .pump = some s' → s'.notices = c.session.notices := by
    intro s' hstep
    cases moves_of_step hstep with
    | pump _ hpump =>
      obtain ⟨_, _, _, _, rfl, -⟩ := stepPump_eq hpump
      rfl
  have hsize : c.session.config.noticeQueueSize = max config.errorQueueCapacity 10 := by
    rw [config_of_run hsession]
    rfl
  have hproceeds : ∀ t a failure?, t.activity? = some a → c.session.report? a = some failure? →
      c.session.handed? t = some ⟨a, failure?⟩ ∧ (c.session.step t).isSome = true := by
    intro t a failure? hturn hreport
    have hstarted : c.session.stage = .started := by
      by_contra hunstarted
      rw [report_of_unstarted hsession hunstarted a] at hreport
      cases hreport
    exact report_proceeds hspare hstarted hturn hreport
  refine ⟨honce, fun t n => activity_of_handed, hpump, hsize, length_lt_noticeQueueSize hspare.length_le,
    hproceeds, hheeded.heard_prefix, ?_⟩
  intro hlooking
  exact hheeded.kept ((wired_run hsession).attentive hlooking).1

namespace Chronicle

/-- The streams of the engine end, and the engine fails.  The router and the relay have told so, and the
watcher is about to; the controller has not had a turn. -/
def crowdedCourse : List Turn :=
  [.world (.start none), .world (.stdout .eof), .world (.stderr .eof), .world (.exit (.exited 1))] ++
    List.replicate 7 .router ++ List.replicate 8 .relay ++ [.watcher true]

/-- The settings ask for a queue without any room.  All three activities report before the controller
looks at a notice, and the last of them does not have to wait either; then the controller takes the first
notice that was handed over, and the others are left for it. -/
theorem notices_of_crowdedCourse :
    ∃ c c', (start "s" { binary := .path "engine", errorQueueCapacity := 0 }).run crowdedCourse = some c ∧
      c.session.report? .processWait = some (some (.exitCode 1)) ∧
      c.session.handed? (.watcher false) = some ⟨.processWait, some (.exitCode 1)⟩ ∧
      (c.session.step (.watcher false)).isSome = true ∧
      (start "s" { binary := .path "engine", errorQueueCapacity := 0 }).run
        (crowdedCourse ++ [.watcher false] ++ List.replicate 4 .controller) = some c' ∧
      c'.session.notices.length < c'.session.config.noticeQueueSize ∧
      (create "s" { binary := .path "engine", errorQueueCapacity := 0 }).handed
          (crowdedCourse ++ [.watcher false] ++ List.replicate 4 .controller) =
        [⟨.router, none⟩, ⟨.relay, none⟩, ⟨.processWait, some (.exitCode 1)⟩] := by
  have hcrowded : ((start "s" { binary := .path "engine", errorQueueCapacity := 0 }).run
      crowdedCourse).any (fun c =>
        c.session.report? .processWait = some (some (.exitCode 1)) && c.session.notices.length = 2) =
      true := by
    decide +kernel
  have htaken : ((start "s" { binary := .path "engine", errorQueueCapacity := 0 }).run
      (crowdedCourse ++ [.watcher false] ++ List.replicate 4 .controller)).any (fun c' =>
        c'.session.controller.isLooking && (c'.heard.map Prod.fst = [⟨.router, none⟩] &&
          c'.session.notices = [⟨.relay, none⟩, ⟨.processWait, some (.exitCode 1)⟩])) = true := by
    decide +kernel
  simp only [Option.any_eq_true, Bool.and_eq_true, decide_eq_true_eq] at hcrowded htaken
  obtain ⟨c, hrun, hreport, -⟩ := hcrowded
  obtain ⟨c', hrun', hlooking, hheard, hnotices⟩ := htaken
  obtain ⟨-, -, -, -, -, hproceeds, -⟩ := posting_never_waits _ _ _ c hrun
  obtain ⟨-, -, -, -, hroom, -, -, hkept⟩ := posting_never_waits _ _ _ c' hrun'
  obtain ⟨hhanded, hmoves⟩ := hproceeds (.watcher false) .processWait _ rfl hreport
  refine ⟨c, c', hrun, hreport, hhanded, hmoves, hrun', hroom, ?_⟩
  rw [hkept hlooking, hheard, hnotices]
  rfl

end Chronicle
end Session
end Traversal
