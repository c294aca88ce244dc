import Mathlib
import Traversal.Proofs.Mailbox
import Traversal.Proofs.Posting
import Traversal.Proofs.Stopping

/-!
# The end of a session

When a session has been told to stop, its tasks come to their ends by themselves: none of them waits for
another one, nor for room for a notice, so that each can move until it is done.  Only the watcher may have
to wait, for the grace period of the engine or for the end of an engine that it has killed.

`Session.toil` bounds the steps that are left.  Each step of a task takes from it and nothing adds to it,
whatever arrives for the tasks (`Tires`).  Only the far side of the sink for diagnostics must not interrupt
every write for ever.

`Tidy` is the invariant that says what has been released by then.  A session whose outcome is known has
no task left that moves, holds none of the engine's streams, and has collected the engine's status
(`teardown`).
-/

namespace Traversal

/-! ### What the tasks let go of -/

/-- Whether a watcher has collected the status of the engine. -/
def Watcher.hasCollected (w : Watcher) : Bool :=
  match w.phase with
  | .posting _ => true
  | .releasing _ => true
  | .done => true
  | _ => false

/-- What a step of a watcher leads to: it waits for the engine for the grace period at most, mourns an
engine that it has just killed, or has collected its status. -/
lemma Watcher.course_of_step {isShutdown prefersShutdown : Bool} {now : Nat} {w : Watcher}
    {c : Engine.Child} {m : Watcher.Move} (h : w.step isShutdown prefersShutdown now c = some m) :
    m.watcher.grace = w.grace ∧
      (∀ deadline, m.watcher.phase = .graced deadline → deadline = now + w.grace) ∧
      (m.watcher.phase = .mourning → m.act = .kill) ∧
      (m.watcher.hasCollected = true →
        w.hasCollected = true ∧ m.child = c ∨ ∃ status, m.child = .reaped status) := by
  cases motion_of_step h with
  | yield hphase _ hm =>
    subst hm
    exact ⟨rfl, by simp [yield, eq_comm], by simp [yield], by simp [hasCollected, yield]⟩
  | collect status hstatus _ hm =>
    subst hm
    exact ⟨rfl, by simp [collect], by simp [collect], fun _ => .inr ⟨status, reap_eq hstatus⟩⟩
  | giveUp deadline hphase _ _ hm =>
    subst hm
    exact ⟨rfl, by simp, by simp, by simp [hasCollected]⟩
  | kill hphase hm =>
    subst hm
    exact ⟨rfl, by simp, fun _ => rfl, by simp [hasCollected]⟩
  | post failure? hphase hm =>
    subst hm
    exact ⟨rfl, by simp, by simp, fun _ => .inl ⟨by simp [hasCollected, hphase], rfl⟩⟩
  | release hold hphase hm =>
    subst hm
    exact ⟨rfl, by cases hold <;> simp [Hold.next], by cases hold <;> simp [Hold.next],
      fun _ => .inl ⟨by simp [hasCollected, hphase], rfl⟩⟩

/-- Whether a pump has let go of the engine's standard input. -/
def Pump.hasLetGo (p : Pump) : Bool :=
  match p.phase with
  | .releasing .queue => true
  | .done => true
  | _ => false

/-- A pump lets go of the engine's standard input before it lets go of the queue. -/
lemma Pump.letGo_of_step {isShutdown hasSenders : Bool} {first? : Option Request} {p : Pump} {k : Sink}
    {m : Pump.Move} (h : p.step isShutdown first? hasSenders k = some m)
    (hafter : m.pump.hasLetGo = true) : p.hasLetGo = true ∨ m.act = .release .stdin := by
  have hleaving : m.pump.isLeaving = true := by
    unfold hasLetGo at hafter
    unfold isLeaving
    split at hafter <;> simp_all
  rcases leaves_of_step h hleaving with ⟨-, hphase⟩ | ⟨hold, hphase, -, hact⟩
  · simp [hasLetGo, hphase] at hafter
  · cases hold with
    | stdin => exact .inr hact
    | queue => exact .inl (by simp [hasLetGo, hphase])

/-- Whether a controller has removed the engine's file. -/
def Controller.hasCleared (c : Controller) : Bool :=
  match c.phase with
  | .returned _ => true
  | .abandoned => true
  | _ => false

/-- A controller removes the engine's file in its last step. -/
lemma Controller.clear_of_step {v : Controller.View} {c : Controller} {m : Controller.Move}
    (h : c.step v = some m) (hafter : m.controller.hasCleared = true) : m.act = .clear := by
  have hlooking : m.controller.isLooking = true → m.act = .clear := by
    intro hlooking
    unfold isLooking at hlooking
    unfold hasCleared at hafter
    split at hlooking <;> simp_all
  cases hphase : c.phase with
  | polling branch =>
    cases finding_of_step h with
    | look _ hlooks => exact hlooking hlooks
    | hear _ _ _ _ hlooks => simp [hasCleared, hlooks] at hafter
    | connect _ _ _ hm => simp [hm, hasCleared, decide] at hafter
    | giveUp _ _ _ hm => simp [hm, hasCleared, decide] at hafter
    | windUp _ hbefore => simp [decision?, hphase] at hbefore
  | parked =>
    simp only [step, hphase] at h
    split at h <;> cases h
    exact hlooking rfl
  | stopping outcome | leaving outcome =>
    simp only [step, hphase, Option.some.injEq] at h
    subst h
    simp [hasCleared] at hafter
  | joining outcome =>
    simp only [step, hphase] at h
    split at h <;> cases h
    simp [hasCleared] at hafter
  | clearing outcome =>
    simp only [step, hphase, Option.some.injEq] at h
    subst h
    rfl
  | returned outcome => simp [step, hphase] at h
  | abandoned => simp [step, hphase] at h

namespace Session

variable {s s' : Session}

/-! ### What a turn leaves alone -/

/-- What the world leaves alone, and what it adds to the streams of the relay and the router. -/
structure Undisturbed (e : Event) (s s' : Session) : Prop where
  router : s'.router = s.router
  relay : s'.relay = s.relay
  pump : s'.pump = s.pump
  watcher : s'.watcher = s.watcher
  isKilled : s'.isKilled = s.isKilled
  now_le : s.now ≤ s'.now
  released : s.released ⊆ s'.released
  reaped : ∀ status, s.child = .reaped status → s'.child = .reaped status
  stdout : s'.stdout = s.stdout ∨ ∃ a, s'.stdout = s.stdout.arrive a
  stderr : s'.stderr = s.stderr ∨ ∃ a, e = .stderr a ∧ s'.stderr = s.stderr.arrive a
  diagnostics : s'.diagnostics = s.diagnostics ∨
    ∃ event, e = .diagnostics event ∧ s'.diagnostics = s.diagnostics.apply event
  controller : s'.controller = s.controller ∨ Asset.binary ∈ s'.released

/-- The world does not disturb the tasks. -/
lemma undisturbed_of_meet {e : Event} (h : s.meet e = some s') : Undisturbed e s s' := by
  have hsame : Undisturbed e s s :=
    ⟨rfl, rfl, rfl, rfl, rfl, le_rfl, List.Subset.refl _, fun _ => id, .inl rfl, .inl rfl, .inl rfl,
      .inl rfl⟩
  unfold meet at h
  cases e with
  | start failure? =>
    simp only at h
    split at h
    · cases failure? <;> cases h
      · exact { hsame with }
      · exact { hsame with released := List.subset_cons_self _ _, controller := .inl rfl }
    · cases h
  | discard =>
    simp only at h
    split at h <;> cases h
    exact { hsame with released := List.subset_cons_self _ _, controller := .inl rfl }
  | abandon =>
    simp only at h
    split at h <;> cases h
    exact
      { hsame with
        released := List.subset_cons_self _ _
        controller := .inr (List.mem_cons_self ..) }
  | submit payload | share | part =>
    simp only at h
    split at h <;> cases h
    exact { hsame with }
  | stdout a =>
    cases h
    split
    · exact hsame
    · exact { hsame with stdout := .inr ⟨a, rfl⟩ }
  | stderr a =>
    cases h
    split
    · exact hsame
    · exact { hsame with stderr := .inr ⟨a, rfl, rfl⟩ }
  | diagnostics event =>
    cases h
    exact { hsame with diagnostics := .inr ⟨event, rfl, rfl⟩ }
  | exit status =>
    cases h
    exact { hsame with reaped := fun status' hreaped => by simp [Engine.Child.finish, hreaped] }
  | elapse duration =>
    cases h
    exact { hsame with now_le := Nat.le_add_right _ _ }
  | cancel | stdin event =>
    cases h
    exact { hsame with }

/-- A step of the pump: what it lets go of is released. -/
lemma released_of_stepPump (h : s.stepPump = some s') :
    ∃ m, s.pump.step s.isShutdown s.mailbox.queue.head? (0 < s.mailbox.handles) s.stdin = some m ∧
      s'.pump = m.pump ∧ s.released ⊆ s'.released ∧
      (m.act = .release .stdin → Asset.stdin ∈ s'.released) := by
  simp only [stepPump, Option.bind_eq_bind, Option.bind_eq_some_iff] at h
  obtain ⟨⟨pump, stdin, act⟩, hmove, h⟩ := h
  refine ⟨_, hmove, ?_⟩
  cases act with
  | inner | take | answer ticket failure? =>
    cases h
    exact ⟨rfl, List.Subset.refl _, by simp⟩
  | release hold =>
    cases hold <;> cases h
    · exact ⟨rfl, List.subset_cons_self _ _, fun _ => List.mem_cons_self ..⟩
    · exact ⟨rfl, List.Subset.refl _, by simp⟩

/-- A step of the controller: what it lets go of is released. -/
lemma released_of_stepController (h : s.stepController = some s') :
    ∃ m, s.controller.step s.view = some m ∧ s'.controller = m.controller ∧
      s.released ⊆ s'.released ∧ (m.act = .clear → Asset.binary ∈ s'.released) := by
  simp only [stepController, Option.bind_eq_bind, Option.bind_eq_some_iff] at h
  obtain ⟨⟨controller, act⟩, hmove, h⟩ := h
  refine ⟨_, hmove, ?_⟩
  cases act with
  | inner | take | stop | leave =>
    cases h
    exact ⟨rfl, List.Subset.refl _, by simp⟩
  | clear =>
    cases h
    exact ⟨rfl, List.subset_cons_self _ _, fun _ => List.mem_cons_self ..⟩

/-! ### Nothing is left behind -/

/-- Whether the task that something belongs to has let go of it. -/
def hasLetGo (s : Session) : Asset → Bool
  | .stdout => 3 ≤ s.router.rank
  | .diagnostics => 2 ≤ s.relay.rank
  | .stderr => 4 ≤ s.relay.rank
  | .stdin => s.pump.hasLetGo
  | .binary => s.controller.hasCleared

/-- What holds after every course of the engine and of what has been let go of. -/
structure Tidy (grace : Nat) (s : Session) : Prop where
  grace_eq : s.watcher.grace = grace
  deadline_le : ∀ deadline, s.watcher.phase = .graced deadline → deadline ≤ s.now + grace
  killed : s.watcher.phase = .mourning → s.isKilled = true
  reaped : s.watcher.hasCollected = true → ∃ status, s.child = .reaped status
  released : ∀ asset, s.hasLetGo asset = true → asset ∈ s.released
  /-- The engine does not write empty chunks. -/
  solid : s.stdout.IsSolid

/-- The invariant holds at the start. -/
lemma tidy_create (name : String) (config : Config) :
    Tidy (config.shutdownGrace * 1000) (create name config) where
  grace_eq := rfl
  deadline_le := by simp [create]
  killed := by simp [create]
  reaped := by simp [create, Watcher.hasCollected]
  released asset hgone := by
    cases asset <;> simp [create, hasLetGo, Router.start, Router.rank, Relay.rank, Pump.hasLetGo,
      Controller.hasCleared] at hgone
  solid := List.not_mem_nil

variable {grace : Nat}

/-- Whatever happens around a session keeps the invariant. -/
lemma Tidy.meet (h : Tidy grace s) {e : Event} (hmeet : s.meet e = some s') : Tidy grace s' := by
  have hworld := undisturbed_of_meet hmeet
  have hreleased := hworld.released
  exact
    { grace_eq := by rw [hworld.watcher, h.grace_eq]
      deadline_le := fun deadline hphase => by
        have hle := h.deadline_le deadline (hworld.watcher ▸ hphase)
        have hnow := hworld.now_le
        omega
      killed := fun hphase => hworld.isKilled.trans (h.killed (hworld.watcher ▸ hphase))
      reaped := fun hcollected => by
        obtain ⟨status, hstatus⟩ := h.reaped (hworld.watcher ▸ hcollected)
        exact ⟨status, hworld.reaped status hstatus⟩
      released := fun asset hgone => by
        by_cases hbinary : asset = .binary ∧ Asset.binary ∈ s'.released
        · exact hbinary.1 ▸ hbinary.2
        · have hsame : s'.hasLetGo asset = s.hasLetGo asset := by
            cases asset with
            | binary =>
              have hcontroller := hworld.controller.resolve_right fun hmem => hbinary ⟨rfl, hmem⟩
              simp only [hasLetGo, hcontroller]
            | _ => simp only [hasLetGo, hworld.router, hworld.relay, hworld.pump]
          exact hreleased (h.released asset (hsame.symm.trans hgone))
      solid := by
        rcases hworld.stdout with hsame | ⟨a, harrive⟩
        · rw [hsame]
          exact h.solid
        · rw [harrive]
          exact h.solid.arrive a }

/-- A step of the router keeps the invariant. -/
lemma Tidy.router (h : Tidy grace s) (hstep : s.stepRouter = some s') : Tidy grace s' := by
  obtain ⟨m, hmove, hr, hstdout, hreleased, hlets, -⟩ := move_of_stepRouter hstep
  obtain ⟨_, _, _, _, _, _, _, rfl, -⟩ := stepRouter_eq hstep
  subst hr hstdout
  have hrank := Router.rank_of_step hmove
  refine { h with released := fun asset hgone => ?_, solid := Router.isSolid_of_step h.solid hmove }
  cases asset with
  | stdout =>
    have hafter : 3 ≤ m.router.rank := of_decide_eq_true hgone
    by_cases hbefore : 3 ≤ s.router.rank
    · exact hreleased (h.released .stdout (decide_eq_true hbefore))
    · refine hlets ?_
      cases hact : m.act with
      | release hold =>
        rw [hact] at hrank
        cases hold with
        | stdout => rfl
        | notices | slot =>
          obtain ⟨hle, -⟩ := hrank
          omega
      | inner =>
        rw [hact] at hrank
        obtain ⟨-, hle | ⟨-, heq⟩⟩ := hrank <;> omega
      | forward message | deliver t | post failure? =>
        rw [hact] at hrank
        obtain ⟨-, heq⟩ := hrank
        omega
  | diagnostics | stderr | stdin | binary => exact hreleased (h.released _ hgone)

/-- A step of the relay keeps the invariant. -/
lemma Tidy.relay (h : Tidy grace s) (hstep : s.stepRelay = some s') : Tidy grace s' := by
  obtain ⟨m, hmove, hr, -, -, hreleased, hsink, hstderr, -⟩ := move_of_stepRelay hstep
  obtain ⟨_, _, _, _, _, _, rfl, -⟩ := stepRelay_eq hstep
  subst hr
  have hrank := Relay.rank_of_step hmove
  refine { h with released := fun asset hgone => ?_ }
  -- Each rank is reached by letting go of one thing.
  have hreached : ∀ rank, 2 ≤ rank → rank ≤ m.relay.rank → ¬ rank ≤ s.relay.rank →
      m.relay.rank = rank ∧ ∃ hold, m.act = .release hold := by
    intro rank hge hafter hbefore
    cases hact : m.act with
    | release hold =>
      rw [hact] at hrank
      cases hold <;> (obtain ⟨hold, hnew⟩ := hrank; exact ⟨by omega, _, rfl⟩)
    | inner | post failure? =>
      rw [hact] at hrank
      obtain ⟨-, hnew⟩ := hrank
      omega
  cases asset with
  | diagnostics =>
    have hafter : 2 ≤ m.relay.rank := of_decide_eq_true hgone
    by_cases hbefore : 2 ≤ s.relay.rank
    · exact hreleased (h.released .diagnostics (decide_eq_true hbefore))
    · obtain ⟨heq, hold, hact⟩ := hreached 2 (by omega) hafter hbefore
      rw [hact] at hrank
      cases hold with
      | sink => exact hsink hact
      | notices | stderr => obtain ⟨-, hnew⟩ := hrank; omega
  | stderr =>
    have hafter : 4 ≤ m.relay.rank := of_decide_eq_true hgone
    by_cases hbefore : 4 ≤ s.relay.rank
    · exact hreleased (h.released .stderr (decide_eq_true hbefore))
    · obtain ⟨heq, hold, hact⟩ := hreached 4 (by omega) hafter hbefore
      rw [hact] at hrank
      cases hold with
      | stderr => exact hstderr hact
      | sink | notices => obtain ⟨-, hnew⟩ := hrank; omega
  | stdout | stdin | binary => exact hreleased (h.released _ hgone)

/-- A step of the pump keeps the invariant. -/
lemma Tidy.pump (h : Tidy grace s) (hstep : s.stepPump = some s') : Tidy grace s' := by
  obtain ⟨m, hmove, hp, hreleased, hlets⟩ := released_of_stepPump hstep
  obtain ⟨_, _, _, _, rfl, -⟩ := stepPump_eq hstep
  subst hp
  refine { h with released := fun asset hgone => ?_ }
  cases asset with
  | stdin =>
    rcases Pump.letGo_of_step hmove hgone with hbefore | hact
    · exact hreleased (h.released .stdin hbefore)
    · exact hlets hact
  | stdout | diagnostics | stderr | binary => exact hreleased (h.released _ hgone)

/-- A step of the watcher keeps the invariant. -/
lemma Tidy.watcher (h : Tidy grace s) {prefersShutdown : Bool}
    (hstep : s.stepWatcher prefersShutdown = some s') : Tidy grace s' := by
  obtain ⟨m, hmove, hw, hchild, hkill, -⟩ := move_of_stepWatcher hstep
  obtain ⟨_, _, _, _, _, rfl, -⟩ := stepWatcher_eq hstep
  subst hw hchild
  obtain ⟨hgrace, hdeadline, hmourning, hcollected⟩ := Watcher.course_of_step hmove
  exact
    { h with
      grace_eq := hgrace.trans h.grace_eq
      deadline_le := fun deadline hphase => by rw [hdeadline deadline hphase, h.grace_eq]
      killed := fun hphase => hkill (.inr (hmourning hphase))
      reaped := fun hafter => by
        rcases hcollected hafter with ⟨hbefore, hsame⟩ | hreaped
        · obtain ⟨status, hstatus⟩ := h.reaped hbefore
          exact ⟨status, hsame.trans hstatus⟩
        · exact hreaped
      released := fun asset hgone => h.released asset (by cases asset <;> exact hgone) }

/-- A step of the controller keeps the invariant. -/
lemma Tidy.controller (h : Tidy grace s) (hstep : s.stepController = some s') : Tidy grace s' := by
  obtain ⟨m, hmove, hc, hreleased, hlets⟩ := released_of_stepController hstep
  obtain ⟨_, -, _, _, _, _, rfl, -⟩ := stepController_eq hstep
  refine { h with released := fun asset hgone => ?_ }
  cases asset with
  | binary => exact hlets (Controller.clear_of_step hmove (hc ▸ hgone))
  | stdout | diagnostics | stderr | stdin => exact hreleased (h.released _ hgone)

/-- A turn keeps the invariant. -/
lemma Tidy.step (h : Tidy grace s) {t : Turn} (hstep : s.step t = some s') : Tidy grace s' := by
  cases moves_of_step hstep with
  | world hmeet => exact h.meet hmeet
  | router _ hrouter => exact h.router hrouter
  | relay _ hrelay => exact h.relay hrelay
  | pump _ hpump => exact h.pump hpump
  | watcher _ hwatcher => exact h.watcher hwatcher
  | controller _ hcontroller => exact h.controller hcontroller

/-- The invariant holds after every course. -/
theorem tidy_run {name : String} {config : Config} {turns : List Turn}
    (hrun : (create name config).run turns = some s) : Tidy (config.shutdownGrace * 1000) s :=
  run_induction (fun _ _ _ h => h.step) hrun (tidy_create name config)

/-- When all tasks are done, nothing is held of the engine but the file that it was started from, and its
status has been collected. -/
lemma Tidy.released_of_done (h : Tidy grace s) (hdone : s.areTasksDone = true) :
    (∀ asset, asset ≠ .binary → asset ∈ s.released) ∧ ∃ status, s.child = .reaped status := by
  obtain ⟨hrouter, hrelay, hpump, hwatcher⟩ := areTasksDone_iff.mp hdone
  refine ⟨fun asset hasset => h.released asset ?_, h.reaped (by simp [Watcher.hasCollected, hwatcher])⟩
  cases asset with
  | stdout => simp [hasLetGo, Router.rank, hrouter]
  | diagnostics | stderr => simp [hasLetGo, Relay.rank, hrelay]
  | stdin => simp [hasLetGo, Pump.hasLetGo, hpump]
  | binary => exact absurd rfl hasset

/-! ### No task waits for another one -/

/-- A router that has been told to stop can move until it is done. -/
lemma stepRouter_isSome (hspare : Spare s) (hshut : s.isShutdown = true)
    (hdone : s.router.isDone = false) : s.stepRouter.isSome = true := by
  obtain ⟨m, hmove⟩ := Option.ne_none_iff_exists'.mp
    (Router.step_ne_none (of_decide_eq_false hdone) s.stdout)
  obtain ⟨router, stdout, act⟩ := m
  simp only [stepRouter, hshut, hmove, Option.bind_eq_bind, Option.bind_some]
  cases act with
  | post failure? => exact post_isSome (by exact hspare.length_le) _ _
  | release hold => cases hold <;> rfl
  | inner | forward message | deliver t => rfl

/-- A relay that has been told to stop can move until it is done. -/
lemma stepRelay_isSome (hspare : Spare s) (hshut : s.isShutdown = true)
    (hdone : s.relay.isDone = false) : s.stepRelay.isSome = true := by
  obtain ⟨m, hmove⟩ := Option.ne_none_iff_exists'.mp
    (Relay.step_ne_none (of_decide_eq_false hdone) s.stderr s.diagnostics)
  obtain ⟨relay, stderr, sink, act⟩ := m
  simp only [stepRelay, hshut, hmove, Option.bind_eq_bind, Option.bind_some]
  cases act with
  | post failure? => exact post_isSome (by exact hspare.length_le) _ _
  | release hold => cases hold <;> rfl
  | inner => rfl

/-- A pump that has been told to stop can move until it is done. -/
lemma stepPump_isSome (hshut : s.isShutdown = true) (hdone : s.pump.isDone = false) :
    s.stepPump.isSome = true := by
  obtain ⟨m, hmove⟩ := Option.ne_none_iff_exists'.mp
    (Pump.step_ne_none (of_decide_eq_false hdone) s.mailbox.queue.head? (0 < s.mailbox.handles) s.stdin)
  obtain ⟨pump, stdin, act⟩ := m
  simp only [stepPump, hshut, hmove, Option.bind_eq_bind, Option.bind_some]
  cases act with
  | release hold => cases hold <;> rfl
  | inner | take | answer ticket failure? => rfl

/-- A watcher can take the step that it is about to take. -/
lemma stepWatcher_isSome (hspare : Spare s) {prefersShutdown : Bool}
    (hmove : s.watcher.step s.isShutdown prefersShutdown s.now s.child ≠ none) :
    (s.stepWatcher prefersShutdown).isSome = true := by
  obtain ⟨⟨watcher, child, act⟩, hmove⟩ := Option.ne_none_iff_exists'.mp hmove
  simp only [stepWatcher, hmove, Option.bind_eq_bind, Option.bind_some]
  cases act with
  | post failure? => exact post_isSome (by exact hspare.length_le) _ _
  | release hold => cases hold <;> rfl
  | inner | kill => rfl

/-- The watcher waits for the engine to end, and will not wait for ever: it moves when the grace period
is over, which does not take longer than it should, or when an engine that it has killed has ended. -/
inductive Expects (grace : Nat) (prefersShutdown : Bool) (s : Session) : Prop
  | time (deadline : Nat) (hrunning : s.child = .running)
      (hphase : s.watcher.phase = .graced deadline) (hle : deadline ≤ s.now + grace)
      (hthen : ∀ duration, deadline ≤ s.now + duration →
        (s.run [.world (.elapse duration), .watcher prefersShutdown]).isSome = true)
  | death (hrunning : s.child = .running) (hkilled : s.isKilled = true)
      (hthen : ∀ status, (s.run [.world (.exit status), .watcher prefersShutdown]).isSome = true)

/-- A watcher that has been told to stop can move, or it expects something to happen. -/
lemma Tidy.stepWatcher_isSome (h : Tidy grace s) (hspare : Spare s) (hstage : s.stage = .started)
    (hshut : s.isShutdown = true) (hdone : s.watcher.isDone = false) (prefersShutdown : Bool) :
    (s.stepWatcher prefersShutdown).isSome = true ∨ Expects grace prefersShutdown s := by
  by_cases hmove : s.watcher.step s.isShutdown prefersShutdown s.now s.child = none
  · right
    have hnext : ∀ {e : Event} {s₁ : Session}, s.meet e = some s₁ → s₁.stage = .started → Spare s₁ →
        s₁.watcher.step s₁.isShutdown prefersShutdown s₁.now s₁.child ≠ none →
        (s.run [.world e, .watcher prefersShutdown]).isSome = true := by
      intro e s₁ hmeet hstage₁ hspare₁ hmove₁
      have hfirst : s.step (.world e) = some s₁ := hmeet
      have hsecond : s₁.step (.watcher prefersShutdown) = s₁.stepWatcher prefersShutdown := by
        simp [Session.step, hstage₁]
      simp only [run, List.foldlM_cons, List.foldlM_nil, hfirst, bind_pure, Option.bind_eq_bind,
        Option.bind_some, hsecond]
      exact Session.stepWatcher_isSome hspare₁ hmove₁
    rw [hshut] at hmove
    rcases Watcher.waits_of_step hmove with ⟨hrunning, ⟨deadline, hphase, hlt⟩ | hphase⟩ | hend
    · refine .time deadline hrunning hphase (h.deadline_le deadline hphase) fun duration hle => ?_
      refine hnext (e := .elapse duration) rfl hstage ⟨hspare.nodup, hspare.spent⟩ ?_
      simp [Watcher.step, hphase, hrunning, Engine.Child.status?, hle]
    · refine .death hrunning (h.killed hphase) fun status => ?_
      refine hnext (e := .exit status) rfl hstage ⟨hspare.nodup, hspare.spent⟩ ?_
      simp [Watcher.step, hphase, hrunning, Engine.Child.finish, Engine.Child.status?]
    · exact absurd hend (of_decide_eq_false hdone)
  · exact .inl (Session.stepWatcher_isSome hspare hmove)

/-! ### No task moves for ever -/

/-- A bound on the steps of the tasks of a session that has been told to stop. -/
def toil (s : Session) : Nat :=
  s.router.toil + s.relay.toil + s.pump.toil + s.watcher.toil

/-- Whether it is the turn of one of the four tasks that deal with the engine. -/
def Turn.isTask : Turn → Bool
  | .router => true
  | .relay => true
  | .pump => true
  | .watcher _ => true
  | _ => false

/-- Each step of a task brings a session nearer to its end, and no turn leads it away from it. -/
structure Tires (s : Session) : Prop where
  toil_lt : ∀ t s', t.isTask = true → s.step t = some s' → s'.toil < s.toil
  toil_le : ∀ t s', s.step t = some s' → s'.toil ≤ s.toil

/-- The far side of the sink for diagnostics does not begin to interrupt every write for ever. -/
def Turn.isResponsive : Turn → Bool
  | .world (.diagnostics (.broken fault)) => !fault.isInterruption
  | _ => true

/-- A turn lets the writes of the relay return, if its far side does. -/
lemma isResponsive_of_step (h : s.diagnostics.IsResponsive) {t : Turn} (ht : t.isResponsive = true)
    (hstep : s.step t = some s') : s'.diagnostics.IsResponsive := by
  cases moves_of_step hstep with
  | @world e hmeet =>
    rcases (undisturbed_of_meet hmeet).diagnostics with hsame | ⟨event, rfl, happly⟩
    · rw [hsame]
      exact h
    · rw [happly]
      cases event with
      | broken fault =>
        intro fault' hbroken
        obtain rfl : fault = fault' := by simpa [Sink.apply, Sink.change] using hbroken
        simpa [Turn.isResponsive] using ht
      | budget _ | maxWrite _ | writeFault _ _ | flushFault _ => exact h
  | relay _ hrelay =>
    obtain ⟨m, hmove, -, -, hsink, -⟩ := move_of_stepRelay hrelay
    rw [hsink]
    intro fault hbroken
    exact h fault (Relay.broken_of_step hmove ▸ hbroken)
  | router _ hrouter =>
    obtain ⟨_, _, _, _, _, _, _, rfl, -⟩ := stepRouter_eq hrouter
    exact h
  | pump _ hpump =>
    obtain ⟨_, _, _, _, rfl, -⟩ := stepPump_eq hpump
    exact h
  | watcher _ hwatcher =>
    obtain ⟨_, _, _, _, _, rfl, -⟩ := stepWatcher_eq hwatcher
    exact h
  | controller _ hcontroller =>
    obtain ⟨_, -, _, _, _, _, rfl, -⟩ := stepController_eq hcontroller
    exact h

/-- A step of a task takes from what is left to do, and no turn adds to it. -/
lemma toil_of_step {limit : Nat} {arrived : List Arrival} (hfaithful : Faithful limit arrived s)
    (htidy : Tidy grace s) (hresponsive : s.diagnostics.IsResponsive) (hshut : s.isShutdown = true)
    {t : Turn} (hstep : s.step t = some s') : t.isTask.toNat + s'.toil ≤ s.toil := by
  unfold toil
  cases moves_of_step hstep with
  | @world e hmeet =>
    have hworld := undisturbed_of_meet hmeet
    rw [hworld.router, hworld.relay, hworld.pump, hworld.watcher]
    simp only [Turn.isTask, Bool.toNat_false]
    omega
  | router _ hrouter =>
    obtain ⟨m, hmove, hr, -⟩ := move_of_stepRouter hrouter
    obtain ⟨_, _, _, _, _, _, _, rfl, -⟩ := stepRouter_eq hrouter
    subst hr
    have hlt := Router.toil_lt_of_step hfaithful.follows htidy.solid (hshut ▸ hmove)
    simp only [Turn.isTask, Bool.toNat_true]
    omega
  | relay _ hrelay =>
    obtain ⟨m, hmove, hr, -⟩ := move_of_stepRelay hrelay
    obtain ⟨_, _, _, _, _, _, rfl, -⟩ := stepRelay_eq hrelay
    subst hr
    have hlt := Relay.toil_lt_of_step hresponsive (hshut ▸ hmove)
    simp only [Turn.isTask, Bool.toNat_true]
    omega
  | pump _ hpump =>
    obtain ⟨m, hmove, hp, -⟩ := released_of_stepPump hpump
    obtain ⟨_, _, _, _, rfl, -⟩ := stepPump_eq hpump
    subst hp
    have hlt := Pump.toil_lt_of_step (hshut ▸ hmove)
    simp only [Turn.isTask, Bool.toNat_true]
    omega
  | watcher _ hwatcher =>
    obtain ⟨m, hmove, hw, -⟩ := move_of_stepWatcher hwatcher
    obtain ⟨_, _, _, _, _, rfl, -⟩ := stepWatcher_eq hwatcher
    subst hw
    have hlt := Watcher.toil_lt_of_step hmove
    simp only [Turn.isTask, Bool.toNat_true]
    omega
  | controller _ hcontroller =>
    obtain ⟨_, -, _, _, _, _, rfl, -⟩ := stepController_eq hcontroller
    simp only [Turn.isTask, Bool.toNat_false]
    omega

/-- Whatever can happen to a session that has been told to stop, it tires. -/
lemma tires_of_shutdown {limit : Nat} {arrived : List Arrival} (hfaithful : Faithful limit arrived s)
    (htidy : Tidy grace s) (hresponsive : s.diagnostics.IsResponsive) (hshut : s.isShutdown = true) :
    Tires s where
  toil_lt t s' htask hstep := by
    have hle := toil_of_step hfaithful htidy hresponsive hshut hstep
    rw [htask, Bool.toNat_true] at hle
    omega
  toil_le t s' hstep :=
    (Nat.le_add_left _ _).trans (toil_of_step hfaithful htidy hresponsive hshut hstep)

/-- Whether the far side of the sink for diagnostics lets writes return is up to the turns of a course. -/
lemma isResponsive_run {turns : List Turn} (hrun : s.run turns = some s')
    (hturns : ∀ t ∈ turns, t.isResponsive = true) (h : s.diagnostics.IsResponsive) :
    s'.diagnostics.IsResponsive := by
  induction turns generalizing s with
  | nil =>
    cases hrun
    exact h
  | cons t turns ih =>
    obtain ⟨s₁, hstep, hrest⟩ := Option.bind_eq_some_iff.mp hrun
    exact ih hrest (fun t' ht' => hturns t' (List.mem_cons_of_mem _ ht'))
      (isResponsive_of_step h (hturns t (List.mem_cons_self ..)) hstep)

/-- The steps of the tasks in a course are bounded by what is left to do at its start. -/
lemma toil_run {name : String} {config : Config} {turns more : List Turn}
    (hrun : (create name config).run turns = some s) (hshut : s.isShutdown = true)
    (hmore : s.run more = some s') (hturns : ∀ t ∈ turns ++ more, t.isResponsive = true) :
    more.countP Turn.isTask + s'.toil ≤ s.toil ∧ Tires s' := by
  have hresponsive : s.diagnostics.IsResponsive :=
    isResponsive_run hrun (fun t ht => hturns t (List.mem_append_left _ ht)) (by
      intro fault hbroken
      cases hbroken)
  have hcounted : ((∃ turns, (create name config).run turns = some s') ∧ s'.isShutdown = true ∧
      s'.diagnostics.IsResponsive) ∧
      more.countP Turn.isTask + s'.toil ≤ s.toil + (more.map fun _ => 0).sum := by
    refine countP_le_of_foldlM (P := fun s => (∃ turns, (create name config).run turns = some s) ∧
      s.isShutdown = true ∧ s.diagnostics.IsResponsive) ?_ hmore ⟨⟨turns, hrun⟩, hshut, hresponsive⟩
    rintro t ht s s' ⟨⟨turns, hrun⟩, hshut, hresponsive⟩ hstep
    have hrun' : (create name config).run (turns ++ [t]) = some s' := by
      rw [run_concat, hrun, Option.bind_some, hstep]
    have hresponsive' := isResponsive_of_step hresponsive (hturns t (List.mem_append_right _ ht)) hstep
    exact ⟨⟨⟨_, hrun'⟩, isShutdown_of_step hstep hshut, hresponsive'⟩,
      toil_of_step (faithful_run hrun) (tidy_run hrun) hresponsive hshut hstep⟩
  obtain ⟨⟨⟨all, hall⟩, hshut', hresponsive'⟩, hle⟩ := hcounted
  exact ⟨by simpa using hle,
    tires_of_shutdown (faithful_run hall) (tidy_run hall) hresponsive' hshut'⟩

/-! ### The end of a session -/

/-- Each task can move until it is done, but for a watcher that expects something to happen. -/
structure Unblocked (grace : Nat) (s : Session) : Prop where
  router : s.router.isDone = false → (s.step .router).isSome = true
  relay : s.relay.isDone = false → (s.step .relay).isSome = true
  pump : s.pump.isDone = false → (s.step .pump).isSome = true
  watcher : s.watcher.isDone = false → ∀ prefersShutdown,
    (s.step (.watcher prefersShutdown)).isSome = true ∨ Expects grace prefersShutdown s

/-- A session that has been told to stop is not blocked. -/
lemma unblocked_of_shutdown (htidy : Tidy grace s) (hspare : Spare s) (hstage : s.stage = .started)
    (hshut : s.isShutdown = true) : Unblocked grace s where
  router hdone := by
    simp only [step, hstage, if_true]
    exact stepRouter_isSome hspare hshut hdone
  relay hdone := by
    simp only [step, hstage, if_true]
    exact stepRelay_isSome hspare hshut hdone
  pump hdone := by
    simp only [step, hstage, if_true]
    exact stepPump_isSome hshut hdone
  watcher hdone prefersShutdown := by
    simp only [step, hstage, if_true]
    exact htidy.stepWatcher_isSome hspare hstage hshut hdone prefersShutdown

/-- A session that has been started and told to stop remains so. -/
lemma shutdown_of_run {turns : List Turn} (hrun : s.run turns = some s') (hstage : s.stage = .started)
    (hshut : s.isShutdown = true) : s'.stage = .started ∧ s'.isShutdown = true := by
  refine run_induction (P := fun s => s.stage = .started ∧ s.isShutdown = true) ?_ hrun ⟨hstage, hshut⟩
  rintro s t s' ⟨hstage, hshut⟩ hstep
  exact ⟨(stage_of_step hstep (by simp [hstage])).trans hstage, isShutdown_of_step hstep hshut⟩

/-- Once a session has been told to stop, whatever happens from then on: no task waits for another one or
for room for a notice.  As long as the writes of the relay return, each step of a task takes from the toil of
the session, which nothing adds to, so that the tasks take no more steps than there was toil at first.  When
all of them are done, the streams of the engine have been let go of and its status has been collected; and
nobody learns an outcome before that. -/
theorem teardown (name : String) (config : Config) (turns : List Turn) (s : Session)
    (hrun : (create name config).run turns = some s) (hstage : s.stage = .started) :
    (s.isShutdown = true → ∀ more s', s.run more = some s' →
      Unblocked (config.shutdownGrace * 1000) s' ∧
      ((∀ t ∈ turns ++ more, t.isResponsive = true) →
        more.countP Turn.isTask + s'.toil ≤ s.toil ∧ Tires s')) ∧
    (s.areTasksDone = true →
      (∀ asset, asset ≠ .binary → asset ∈ s.released) ∧ ∃ status, s.child = .reaped status) ∧
    ∀ outcome, s.outcome? = some outcome → s.areTasksDone = true ∧ Asset.binary ∈ s.released := by
  refine ⟨fun hshut more s' hmore => ⟨?_, fun hturns => ?_⟩, (tidy_run hrun).released_of_done,
    fun outcome houtcome => ?_⟩
  · have hall : (create name config).run (turns ++ more) = some s' := by
      rw [run_append, hrun, Option.bind_some, hmore]
    obtain ⟨hstage', hshut'⟩ := shutdown_of_run hmore hstage hshut
    exact unblocked_of_shutdown (tidy_run hall) (spare_run hall) hstage' hshut'
  · exact toil_run hrun hshut hmore hturns
  · have hreturned := returned_of_outcome hstage houtcome
    refine ⟨(faithful_run hrun).done_of_outcome hstage houtcome, ?_⟩
    exact (tidy_run hrun).released .binary (by simp [hasLetGo, Controller.hasCleared, hreturned])

/-- The caller cancels while the engine still runs and is telling diagnostics, more of which come in after
that.  The engine does not end by itself, so that it is killed after the grace period; all the tasks come to
their ends, and the caller learns the outcome. -/
theorem teardown_of_cancelled :
    let config : Config := { binary := .path "engine" }
    let turns : List Turn :=
      [.world (.start none), .world (.stderr (.data (Bytes.ofText "diag"))), .relay, .world .cancel] ++
        List.replicate 6 Turn.controller
    let more : List Turn :=
      List.replicate 3 Turn.pump ++ [.relay, .world (.stderr (.data (Bytes.ofText "nostics")))] ++
        List.replicate 11 Turn.relay ++ List.replicate 4 Turn.router ++
        [.watcher false, .world (.elapse 5000000)] ++ List.replicate 2 (Turn.watcher false) ++
        [.world (.exit (.signalled 9))] ++ List.replicate 4 (Turn.watcher false) ++
        List.replicate 2 Turn.controller
    ∃ s s', (create "s" config).run turns = some s ∧ s.run more = some s' ∧
      s'.outcome? = some (.failed .cancelled) ∧ s'.areTasksDone = true ∧
      more.countP Turn.isTask + s'.toil ≤ s.toil ∧ Tires s' ∧
      s'.diagnostics.written = Bytes.ofText "diagnostics" ∧ (∀ asset, asset ∈ s'.released) ∧
      ∃ status, s'.child = .reaped status := by
  intro config turns more
  have hend : ((create "s" config).run turns).any (fun s =>
      s.stage = .started && s.isShutdown && (s.run more).any fun s' =>
        s'.stage = .started && s'.outcome? = some (.failed .cancelled) &&
          s'.diagnostics.written = Bytes.ofText "diagnostics") = true := by
    decide +kernel
  have hturns : ∀ t ∈ turns ++ more, t.isResponsive = true := by decide +kernel
  simp only [Option.any_eq_true, Bool.and_eq_true, decide_eq_true_eq] at hend
  obtain ⟨s, hrun, ⟨hstage, hshut⟩, s', hmore, ⟨hstage', houtcome⟩, hwritten⟩ := hend
  have hall : (create "s" config).run (turns ++ more) = some s' := by
    rw [run_append, hrun, Option.bind_some, hmore]
  obtain ⟨hbound, htires⟩ := ((teardown "s" config turns s hrun hstage).1 hshut more s' hmore).2 hturns
  obtain ⟨-, hreleased, hdone⟩ := teardown "s" config (turns ++ more) s' hall hstage'
  obtain ⟨hdone, hbinary⟩ := hdone _ houtcome
  obtain ⟨hassets, hreaped⟩ := hreleased hdone
  refine ⟨s, s', hrun, hmore, houtcome, hdone, hbound, htires, hwritten, fun asset => ?_, hreaped⟩
  by_cases hasset : asset = .binary
  · rw [hasset]
    exact hbinary
  · exact hassets asset hasset

end Session
end Traversal
