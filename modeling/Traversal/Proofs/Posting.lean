import Mathlib
import Traversal.Proofs.Reporting

/-!
# Room for notices

Each of the three activities that report does so at most once, and the queue of notices has room for more
than three.  So no notice ever waits for room, whether or not the controller takes any.

`Session.handed?` is the notice that a task hands over in a turn; it gets into the queue if somebody
listens (`notices_of_task`).  `Session.isSpent` tells whether an activity will not report any more:
whoever hands a notice over has not been spent, and is spent then (`spent_of_handed`).  `Spare` is the
invariant that follows: the notices in the queue are of different activities, all of which are spent.
-/

namespace Traversal

namespace Relay

variable {r : Relay} {s : Source} {k : Sink}

/-! ### How far a step of the relay goes -/

/-- How far a relay has come in letting go of things. -/
def rank (r : Relay) : Nat :=
  match r.phase with
  | .releasing .sink => 1
  | .releasing .notices => 2
  | .releasing .stderr => 3
  | .done => 4
  | _ => 0

/-- A relay in its loop has not let go of anything. -/
lemma rank_of_isCopying (h : r.isCopying = true) : r.rank = 0 := by
  unfold isCopying at h
  unfold rank
  split at h <;> simp_all

/-- How far a step goes that shows this to others. -/
def Act.spans (act : Act) (before after : Nat) : Prop :=
  match act with
  | .inner => before = 0 ∧ after ≤ 1
  | .post _ => before = 0 ∧ after = 1
  | .release .sink => before = 1 ∧ after = 2
  | .release .notices => before = 2 ∧ after = 3
  | .release .stderr => before = 3 ∧ after = 4

/-- What a step shows to others says where it starts and where it leads. -/
theorem rank_of_step {isShutdown : Bool} {m : Move} (h : r.step isShutdown s k = some m) :
    m.act.spans r.rank m.relay.rank := by
  rcases step_cases h with
    ⟨hcopying, hact, hafter⟩ | ⟨isStopped, hphase, rfl⟩ | ⟨failure?, hphase, rfl⟩ | ⟨hold, hphase, rfl⟩
  · have hrank : m.relay.rank = 0 := by
      rcases hafter with hafter | ⟨fault, hafter⟩ | ⟨isStopped, hafter, -⟩
      · exact rank_of_isCopying hafter
      · simp [rank, hafter]
      · simp [rank, hafter]
    rw [hact, hrank]
    exact ⟨rank_of_isCopying hcopying, Nat.zero_le 1⟩
  · cases isStopped <;> simp [Act.spans, rank, hphase]
  · simp [Act.spans, rank, hphase]
  · cases hold <;> simp [Act.spans, rank, hphase, Hold.next]

/-- No step of a relay leads back. -/
lemma rank_le_of_step {isShutdown : Bool} {m : Move} (h : r.step isShutdown s k = some m) :
    r.rank ≤ m.relay.rank := by
  have hrank := rank_of_step h
  cases hact : m.act with
  | release hold => cases hold <;> (rw [hact] at hrank; obtain ⟨hbefore, hafter⟩ := hrank; omega)
  | inner | post failure? =>
    rw [hact] at hrank
    obtain ⟨hbefore, -⟩ := hrank
    omega

end Relay

/-- No step of a router leads back. -/
lemma Router.rank_le_of_step {r : Router} {s : Source} {isShutdown : Bool} {m : Router.Move}
    (h : r.step isShutdown s = some m) : r.rank ≤ m.router.rank := by
  have hrank := rank_of_step h
  cases hact : m.act with
  | release hold => cases hold <;> (rw [hact] at hrank; obtain ⟨hbefore, hafter⟩ := hrank; omega)
  | inner | forward message | deliver t =>
    rw [hact] at hrank
    obtain ⟨hbefore, -⟩ := hrank
    omega
  | post failure? =>
    rw [hact] at hrank
    obtain ⟨hbefore, hafter⟩ := hrank
    omega

/-- How a router reports that it ended, if it does so in a step. -/
def Router.Act.reported? : Router.Act → Option (Option Failure)
  | post failure? => some failure?
  | _ => none

/-- How a relay reports that it ended, if it does so in a step. -/
def Relay.Act.reported? : Relay.Act → Option (Option Failure)
  | post failure? => some failure?
  | _ => none

/-- How a watcher reports that the engine ended, if it does so in a step. -/
def Watcher.Act.reported? : Watcher.Act → Option (Option Failure)
  | post failure? => some failure?
  | _ => none

/-- A router that reports posts what it reports. -/
lemma Router.Act.eq_post {act : Router.Act} {failure? : Option Failure}
    (h : act.reported? = some failure?) : act = .post failure? := by
  cases act <;> cases h
  rfl

/-- A relay that reports posts what it reports. -/
lemma Relay.Act.eq_post {act : Relay.Act} {failure? : Option Failure}
    (h : act.reported? = some failure?) : act = .post failure? := by
  cases act <;> cases h
  rfl

/-- A watcher that reports posts what it reports. -/
lemma Watcher.Act.eq_post {act : Watcher.Act} {failure? : Option Failure}
    (h : act.reported? = some failure?) : act = .post failure? := by
  cases act <;> cases h
  rfl

namespace Session

variable {s s' : Session}

/-! ### What is handed over -/

/-- The activity whose turn it is. -/
def Turn.activity? : Turn → Option Activity
  | router => some .router
  | relay => some .relay
  | watcher _ => some .processWait
  | _ => none

/-- The notice that a task hands over in a turn, whether or not somebody listens. -/
def handed? (s : Session) : Turn → Option Notice
  | .router =>
    (s.router.step s.isShutdown s.stdout).bind fun m => m.act.reported?.map (Notice.mk .router)
  | .relay =>
    (s.relay.step s.isShutdown s.stderr s.diagnostics).bind fun m =>
      m.act.reported?.map (Notice.mk .relay)
  | .watcher prefersShutdown =>
    (s.watcher.step s.isShutdown prefersShutdown s.now s.child).bind fun m =>
      m.act.reported?.map (Notice.mk .processWait)
  | _ => none

/-- A notice is handed over by the activity that it is about. -/
lemma activity_of_handed {t : Turn} {n : Notice} (h : s.handed? t = some n) :
    t.activity? = some n.activity := by
  cases t with
  | router | relay | watcher prefersShutdown =>
    obtain ⟨m, -, hn⟩ := Option.bind_eq_some_iff.mp h
    obtain ⟨failure?, -, rfl⟩ := Option.map_eq_some_iff.mp hn
    rfl
  | pump | controller | world e => cases h

/-- What gets into the queue if this is handed over: nothing unless somebody listens. -/
def received (s : Session) (notice? : Option Notice) : List Notice :=
  if s.hasListener then notice?.toList else []

/-- If nothing is handed over, the queue stays as it is. -/
lemma append_received_none (s : Session) : s.notices ++ s.received none = s.notices := by
  simp [received]

/-- What is handed over gets into the queue if somebody listens. -/
lemma received_eq (hlistens : s.hasListener = true) (notice? : Option Notice) :
    s.received notice? = notice?.toList :=
  if_pos hlistens

/-- A notice that is posted is handed over. -/
lemma post_eq {activity : Activity} {failure? : Option Failure} (h : s.post activity failure? = some s') :
    s' = { s with notices := s.notices ++ s.received (some ⟨activity, failure?⟩) } := by
  unfold post at h
  by_cases hlistens : s.hasListener = true
  · rw [if_neg (by simp [hlistens])] at h
    rw [received_eq hlistens]
    split at h <;> cases h
    rfl
  · have hnothing : s.notices ++ s.received (some ⟨activity, failure?⟩) = s.notices := by
      simp [received, hlistens]
    rw [if_pos (by simp [hlistens])] at h
    rw [hnothing]
    exact (Option.some.inj h).symm

/-! ### What others see of a step -/

/-- A step of the router: what it lets go of is released, and what it reports is handed over. -/
lemma move_of_stepRouter (h : s.stepRouter = some s') :
    ∃ m, s.router.step s.isShutdown s.stdout = some m ∧ s'.router = m.router ∧ s'.stdout = m.stdout ∧
      s.released ⊆ s'.released ∧ (m.act = .release .stdout → Asset.stdout ∈ s'.released) ∧
      s'.notices = s.notices ++ s.received (m.act.reported?.map (Notice.mk .router)) := by
  simp only [stepRouter, Option.bind_eq_bind, Option.bind_eq_some_iff] at h
  obtain ⟨⟨router, stdout, act⟩, hmove, h⟩ := h
  have hquiet : s.notices = s.notices ++ s.received none := s.append_received_none.symm
  refine ⟨_, hmove, ?_⟩
  cases act with
  | inner | forward message | deliver t =>
    cases h
    exact ⟨rfl, rfl, List.Subset.refl _, by simp, hquiet⟩
  | post failure? =>
    obtain rfl := post_eq h
    exact ⟨rfl, rfl, List.Subset.refl _, by simp, rfl⟩
  | release hold =>
    cases hold with
    | stdout =>
      cases h
      exact ⟨rfl, rfl, List.subset_cons_self _ _, fun _ => List.mem_cons_self .., hquiet⟩
    | notices | slot =>
      cases h
      exact ⟨rfl, rfl, List.Subset.refl _, by simp, hquiet⟩

/-- A step of the relay: what it lets go of is released, and what it reports is handed over. -/
lemma move_of_stepRelay (h : s.stepRelay = some s') :
    ∃ m, s.relay.step s.isShutdown s.stderr s.diagnostics = some m ∧ s'.relay = m.relay ∧
      s'.stderr = m.stderr ∧ s'.diagnostics = m.sink ∧ s.released ⊆ s'.released ∧
      (m.act = .release .sink → Asset.diagnostics ∈ s'.released) ∧
      (m.act = .release .stderr → Asset.stderr ∈ s'.released) ∧
      s'.notices = s.notices ++ s.received (m.act.reported?.map (Notice.mk .relay)) := by
  simp only [stepRelay, Option.bind_eq_bind, Option.bind_eq_some_iff] at h
  obtain ⟨⟨relay, stderr, sink, act⟩, hmove, h⟩ := h
  have hquiet : s.notices = s.notices ++ s.received none := s.append_received_none.symm
  refine ⟨_, hmove, ?_⟩
  cases act with
  | inner =>
    cases h
    exact ⟨rfl, rfl, rfl, List.Subset.refl _, by simp, by simp, hquiet⟩
  | post failure? =>
    obtain rfl := post_eq h
    exact ⟨rfl, rfl, rfl, List.Subset.refl _, by simp, by simp, rfl⟩
  | release hold =>
    cases hold with
    | sink =>
      cases h
      exact ⟨rfl, rfl, rfl, List.subset_cons_self _ _, fun _ => List.mem_cons_self .., by simp, hquiet⟩
    | stderr =>
      cases h
      exact ⟨rfl, rfl, rfl, List.subset_cons_self _ _, by simp, fun _ => List.mem_cons_self .., hquiet⟩
    | notices =>
      cases h
      exact ⟨rfl, rfl, rfl, List.Subset.refl _, by simp, by simp, hquiet⟩

/-- A step of the watcher: it kills the engine, and what it reports is handed over. -/
lemma move_of_stepWatcher {prefersShutdown : Bool} (h : s.stepWatcher prefersShutdown = some s') :
    ∃ m, s.watcher.step s.isShutdown prefersShutdown s.now s.child = some m ∧ s'.watcher = m.watcher ∧
      s'.child = m.child ∧ (s.isKilled = true ∨ m.act = .kill → s'.isKilled = true) ∧
      s'.notices = s.notices ++ s.received (m.act.reported?.map (Notice.mk .processWait)) := by
  simp only [stepWatcher, Option.bind_eq_bind, Option.bind_eq_some_iff] at h
  obtain ⟨⟨watcher, child, act⟩, hmove, h⟩ := h
  have hquiet : s.notices = s.notices ++ s.received none := s.append_received_none.symm
  refine ⟨_, hmove, ?_⟩
  cases act with
  | inner =>
    cases h
    exact ⟨rfl, rfl, by simp, hquiet⟩
  | kill =>
    cases h
    exact ⟨rfl, rfl, fun _ => rfl, hquiet⟩
  | post failure? =>
    obtain rfl := post_eq h
    exact ⟨rfl, rfl, by simp, rfl⟩
  | release hold =>
    cases hold <;> cases h <;> exact ⟨rfl, rfl, by simp [silence], hquiet⟩

/-- In the turn of an activity, what it hands over gets behind the other notices. -/
lemma notices_of_task {t : Turn} {a : Activity} (h : s.step t = some s') (hturn : t.activity? = some a) :
    s'.notices = s.notices ++ s.received (s.handed? t) := by
  cases moves_of_step h with
  | router _ hrouter =>
    obtain ⟨m, hmove, -, -, -, -, hnotices⟩ := move_of_stepRouter hrouter
    rw [hnotices, handed?, hmove, Option.bind_some]
  | relay _ hrelay =>
    obtain ⟨m, hmove, -, -, -, -, -, -, hnotices⟩ := move_of_stepRelay hrelay
    rw [hnotices, handed?, hmove, Option.bind_some]
  | watcher _ hwatcher =>
    obtain ⟨m, hmove, -, -, -, hnotices⟩ := move_of_stepWatcher hwatcher
    rw [hnotices, handed?, hmove, Option.bind_some]
  | world hmeet => cases hturn
  | pump _ hpump => cases hturn
  | controller _ hcontroller => cases hturn

/-- In any other turn, no notice is added. -/
lemma notices_of_other {t : Turn} (h : s.step t = some s') (hturn : t.activity? = none) :
    s'.notices.Sublist s.notices := by
  cases moves_of_step h with
  | world hmeet =>
    rcases meet_eq hmeet with ⟨_, rfl, rfl⟩ | ⟨rfl, rfl⟩ | ⟨-, _, _, _, _, _, _, _, _, _, rfl, -⟩
    · split <;> exact List.Sublist.refl _
    · exact List.nil_sublist _
    · exact List.Sublist.refl _
  | pump _ hpump =>
    obtain ⟨_, _, _, _, rfl, -⟩ := stepPump_eq hpump
    exact List.Sublist.refl _
  | controller _ hcontroller =>
    obtain ⟨m, -, _, _, _, _, rfl, -⟩ := stepController_eq hcontroller
    exact m.act.remaining_sublist _
  | router _ hrouter => cases hturn
  | relay _ hrelay => cases hturn
  | watcher _ hwatcher => cases hturn

/-! ### Activities report once -/

/-- Whether an activity will not report any more. -/
def isSpent (s : Session) : Activity → Bool
  | .router => 2 ≤ s.router.rank
  | .relay => 1 ≤ s.relay.rank
  | .processWait => s.watcher.isSpent

/-- Whether an activity is spent is its own matter. -/
lemma isSpent_congr (hrouter : s'.router = s.router) (hrelay : s'.relay = s.relay)
    (hwatcher : s'.watcher = s.watcher) (a : Activity) : s'.isSpent a = s.isSpent a := by
  cases a <;> simp only [isSpent, hrouter, hrelay, hwatcher]

/-- What a turn does about notices: it adds none, or an activity that has not been spent adds one and is
spent then.  No activity comes back. -/
inductive Adds (s s' : Session) : Prop
  | nothing (hnotices : s'.notices.Sublist s.notices)
  | notice (a : Activity) (failure? : Option Failure) (hbefore : s.isSpent a = false)
      (hafter : s'.isSpent a = true) (hnotices : s'.notices = s.notices ++ [⟨a, failure?⟩])

/-- An activity that is spent stays so. -/
lemma isSpent_of_step {t : Turn} (h : s.step t = some s') (a : Activity) (hspent : s.isSpent a = true) :
    s'.isSpent a = true := by
  cases moves_of_step h with
  | world hmeet =>
    rcases meet_eq hmeet with ⟨_, rfl, rfl⟩ | ⟨rfl, rfl⟩ | ⟨-, _, _, _, _, _, _, _, _, _, rfl, -⟩
    · split
      · exact hspent
      · exact (isSpent_congr rfl rfl rfl a).trans hspent
    · exact (isSpent_congr rfl rfl rfl a).trans hspent
    · exact (isSpent_congr rfl rfl rfl a).trans hspent
  | router _ hrouter =>
    obtain ⟨m, hmove, hr, -⟩ := move_of_stepRouter hrouter
    obtain ⟨_, _, _, _, _, _, _, rfl, -⟩ := stepRouter_eq hrouter
    subst hr
    cases a with
    | router => exact decide_eq_true ((of_decide_eq_true hspent).trans (Router.rank_le_of_step hmove))
    | relay | processWait => exact hspent
  | relay _ hrelay =>
    obtain ⟨m, hmove, hr, -⟩ := move_of_stepRelay hrelay
    obtain ⟨_, _, _, _, _, _, rfl, -⟩ := stepRelay_eq hrelay
    subst hr
    cases a with
    | relay => exact decide_eq_true ((of_decide_eq_true hspent).trans (Relay.rank_le_of_step hmove))
    | router | processWait => exact hspent
  | pump _ hpump =>
    obtain ⟨_, _, _, _, rfl, -⟩ := stepPump_eq hpump
    exact (isSpent_congr rfl rfl rfl a).trans hspent
  | watcher _ hwatcher =>
    obtain ⟨m, hmove, hw, -⟩ := move_of_stepWatcher hwatcher
    obtain ⟨_, _, _, _, _, rfl, -⟩ := stepWatcher_eq hwatcher
    subst hw
    obtain ⟨-, hreport⟩ := Watcher.report_of_step hmove
    cases a with
    | processWait =>
      change m.watcher.isSpent = true
      cases hact : m.act with
      | post failure? =>
        rw [hact] at hreport
        exact hreport.2.2
      | inner | kill | release hold =>
        rw [hact] at hreport
        exact hreport.trans hspent
    | router | relay => exact hspent
  | controller _ hcontroller =>
    obtain ⟨m, -, _, _, _, _, rfl, -⟩ := stepController_eq hcontroller
    exact (isSpent_congr rfl rfl rfl a).trans hspent

/-- An activity that hands a notice over has not been spent, and is spent then. -/
lemma spent_of_handed {t : Turn} {n : Notice} (h : s.step t = some s') (hhanded : s.handed? t = some n) :
    s.isSpent n.activity = false ∧ s'.isSpent n.activity = true := by
  cases moves_of_step h with
  | router _ hrouter =>
    obtain ⟨m, hmove, hr, -⟩ := move_of_stepRouter hrouter
    simp only [handed?, hmove, Option.bind_some, Option.map_eq_some_iff] at hhanded
    obtain ⟨failure?, hreported, rfl⟩ := hhanded
    have hrank := Router.rank_of_step hmove
    rw [Router.Act.eq_post hreported] at hrank
    obtain ⟨hbefore, hafter⟩ := hrank
    exact ⟨by simp [isSpent, hbefore], by simp [isSpent, hr, hafter]⟩
  | relay _ hrelay =>
    obtain ⟨m, hmove, hr, -⟩ := move_of_stepRelay hrelay
    simp only [handed?, hmove, Option.bind_some, Option.map_eq_some_iff] at hhanded
    obtain ⟨failure?, hreported, rfl⟩ := hhanded
    have hrank := Relay.rank_of_step hmove
    rw [Relay.Act.eq_post hreported] at hrank
    obtain ⟨hbefore, hafter⟩ := hrank
    exact ⟨by simp [isSpent, hbefore], by simp [isSpent, hr, hafter]⟩
  | watcher _ hwatcher =>
    obtain ⟨m, hmove, hw, -⟩ := move_of_stepWatcher hwatcher
    simp only [handed?, hmove, Option.bind_some, Option.map_eq_some_iff] at hhanded
    obtain ⟨failure?, hreported, rfl⟩ := hhanded
    obtain ⟨-, hspent⟩ := Watcher.report_of_step hmove
    rw [Watcher.Act.eq_post hreported] at hspent
    exact ⟨hspent.2.1, by simp only [isSpent, hw, hspent.2.2]⟩
  | world hmeet => cases hhanded
  | pump _ hpump => cases hhanded
  | controller _ hcontroller => cases hhanded

/-- Every turn adds at most one notice, and an activity that is spent stays so. -/
theorem notices_of_step {t : Turn} (h : s.step t = some s') :
    Adds s s' ∧ ∀ a, s.isSpent a = true → s'.isSpent a = true := by
  refine ⟨?_, isSpent_of_step h⟩
  cases hturn : t.activity? with
  | none => exact .nothing (notices_of_other h hturn)
  | some a =>
    have hnotices := notices_of_task h hturn
    cases hhanded : s.handed? t with
    | none =>
      rw [hhanded, append_received_none] at hnotices
      exact .nothing (by rw [hnotices])
    | some n =>
      obtain ⟨hbefore, hafter⟩ := spent_of_handed h hhanded
      cases hlistens : s.hasListener with
      | true =>
        rw [hhanded, received_eq hlistens] at hnotices
        exact .notice n.activity n.failure? hbefore hafter hnotices
      | false => exact .nothing (by simp [hnotices, received, hlistens])

/-- The notices in the queue are of different activities that will not report any more. -/
structure Spare (s : Session) : Prop where
  nodup : (s.notices.map Notice.activity).Nodup
  spent : ∀ n ∈ s.notices, s.isSpent n.activity = true

/-- The invariant holds at the start. -/
lemma spare_create (name : String) (config : Config) : Spare (create name config) where
  nodup := List.nodup_nil
  spent := by simp [create]

/-- A turn keeps the invariant. -/
lemma Spare.step (h : Spare s) {t : Turn} (hstep : s.step t = some s') : Spare s' := by
  obtain ⟨hadds, hkeep⟩ := notices_of_step hstep
  cases hadds with
  | nothing hnotices =>
    exact ⟨h.nodup.sublist (hnotices.map _), fun n hn => hkeep _ (h.spent n (hnotices.subset hn))⟩
  | notice a failure? hbefore hafter hnotices =>
    have hnew : a ∉ s.notices.map Notice.activity := by
      intro hmem
      obtain ⟨n, hn, rfl⟩ := List.mem_map.mp hmem
      rw [h.spent n hn] at hbefore
      cases hbefore
    refine ⟨?_, fun n hn => ?_⟩
    · rw [hnotices, List.map_append, List.map_singleton]
      exact List.nodup_append_comm.mp (List.nodup_cons.mpr ⟨hnew, h.nodup⟩)
    · rw [hnotices] at hn
      rcases List.mem_append.mp hn with hold | hlast
      · exact hkeep _ (h.spent n hold)
      · rw [List.mem_singleton.mp hlast]
        exact hafter

/-- The invariant holds after every course. -/
theorem spare_run {name : String} {config : Config} {turns : List Turn}
    (hrun : (create name config).run turns = some s) : Spare s :=
  run_induction (fun _ _ _ h => h.step) hrun (spare_create name config)

/-- There are at most as many notices as there are activities. -/
lemma Spare.length_le (h : Spare s) : s.notices.length ≤ 3 := by
  have hsubset : s.notices.map Notice.activity ⊆ Activity.all := by
    intro a _
    cases a <;> simp [Activity.all]
  simpa [Activity.all] using (List.subperm_of_subset h.nodup hsubset).length_le

/-- There is room for more notices than there are activities. -/
lemma length_lt_noticeQueueSize (h : s.notices.length ≤ 3) : s.notices.length < s.config.noticeQueueSize := by
  have hsize : 10 ≤ s.config.noticeQueueSize := le_max_right _ _
  omega

/-- No notice has to wait for room. -/
lemma post_isSome (h : s.notices.length ≤ 3) (activity : Activity) (failure? : Option Failure) :
    (s.post activity failure?).isSome = true := by
  unfold post
  rw [if_pos (length_lt_noticeQueueSize h)]
  split <;> rfl

end Session
end Traversal
