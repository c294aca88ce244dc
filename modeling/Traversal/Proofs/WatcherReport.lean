import Mathlib
import Traversal.Proofs.WatcherCourse

/-!
# What a watcher reports

A watcher reports once, with the status that the engine has ended with, and it comes to do so when the
engine has ended (`reported_of_ended`) or when the session has been shut down (`reported_of_shutdown`).

Courses that differ in the watcher's preferences differ in nothing that others see, but for the time of
the report (`Watch.Agree`): they only part when the engine has ended and has not been given up, and from
then on all of them lead to the same status.  `report_of_course` puts these together.
-/

namespace Traversal.WatcherRig

open Engine

namespace Watch

variable {grace : Nat} {turns : List Turn} {w : Watch}

/-! ### The report -/

/-- A course that goes on. -/
lemma course_append (w : Watch) (turns later : List Turn) :
    w.course (turns ++ later) = (w.course turns).course later :=
  List.foldl_append ..

/-- A watcher has posted nothing yet, or it has posted once, about the status that it has collected. -/
lemma Orderly.posts_cases (h : Orderly grace turns w) :
    w.posts = [] ∧ w.rig.watcher.isDone = false ∨
      ∃ status, w.rig.child = .reaped status ∧ w.posts = [exitFailure? (.ok status)] := by
  cases hspent : w.rig.watcher.isSpent with
  | true => exact .inr (h.of_spent hspent)
  | false =>
    refine .inl ⟨h.of_unspent hspent, ?_⟩
    unfold Watcher.isSpent at hspent
    unfold Watcher.isDone
    split at hspent <;> simp_all

/-- A watcher that is done has posted once. -/
lemma Orderly.posts_of_done (h : Orderly grace turns w) (hdone : w.rig.watcher.phase = .done) :
    ∃ status, w.rig.child = .reaped status ∧ w.posts = [exitFailure? (.ok status)] :=
  h.of_spent (by simp [Watcher.isSpent, hdone])

/-- What has been posted is about the status of the engine. -/
lemma Orderly.status_of_posts (h : Orderly grace turns w) {failure? : Option Failure}
    (hmem : failure? ∈ w.posts) :
    ∃ status, w.rig.child.status? = some status ∧ failure? = exitFailure? (.ok status) := by
  rcases h.posts_cases with ⟨hnone, -⟩ | ⟨status, hreaped, hposts⟩
  · rw [hnone] at hmem
    cases hmem
  · rw [hposts, List.mem_singleton] at hmem
    exact ⟨status, by rw [hreaped]; rfl, hmem⟩

/-- A watcher that posts, or has posted, has collected the status of the engine. -/
lemma Orderly.reaped_of_toil (h : Orderly grace turns w) (htoil : w.rig.watcher.toil ≤ 3) :
    ∃ status, w.rig.child = .reaped status := by
  cases hphase : w.rig.watcher.phase with
  | watching | graced deadline | killing | mourning => simp [Watcher.toil, hphase] at htoil
  | posting failure? =>
    obtain ⟨status, hreaped, -⟩ := h.of_posting failure? hphase
    exact ⟨status, hreaped⟩
  | releasing hold =>
    obtain ⟨status, hreaped, -⟩ := h.of_spent (by simp [Watcher.isSpent, hphase])
    exact ⟨status, hreaped⟩
  | done =>
    obtain ⟨status, hreaped, -⟩ := h.posts_of_done hphase
    exact ⟨status, hreaped⟩

/-- A watcher that neither watches nor waits has something to do with an engine that has ended or has been
killed. -/
lemma Orderly.status_of_toil (h : Orderly grace turns w) (htoil : w.rig.watcher.toil ≤ 4) :
    w.rig.isKilled = true ∨ ∃ status, w.rig.child.status? = some status := by
  by_cases hmourning : w.rig.watcher.phase = .mourning
  · exact .inl (h.of_mourning hmourning)
  · have hlow : w.rig.watcher.toil ≤ 3 := by
      refine Nat.le_of_lt_succ (lt_of_le_of_ne htoil fun hfour => hmourning ?_)
      unfold Watcher.toil at hfour
      split at hfour <;> first | assumption | cases hfour
    obtain ⟨status, hreaped⟩ := h.reaped_of_toil hlow
    exact .inr ⟨status, by rw [hreaped]; rfl⟩

/-- When something is posted, the status of the engine has been collected before. -/
lemma Orderly.reaped_of_post (h : Orderly grace turns w) {t : Turn} (hpost : w.rig.posted t ≠ []) :
    ∃ status, w.rig.child = .reaped status := by
  cases t with
  | event e => exact absurd rfl hpost
  | perish => exact absurd rfl hpost
  | watcher prefersShutdown =>
    cases hstep : w.rig.watcher.step w.rig.isShutdown prefersShutdown w.rig.now w.rig.child with
    | none => simp [posted, hstep] at hpost
    | some m =>
      cases Watcher.motion_of_step hstep with
      | post failure? hphase hm =>
        obtain ⟨status, hreaped, -⟩ := h.of_posting failure? hphase
        exact ⟨status, hreaped⟩
      | yield _ _ hm | collect _ _ _ hm | giveUp _ _ _ _ hm | kill _ hm | release _ _ hm =>
        subst hm
        exact absurd (by simp [posted, hstep, Watcher.Act.posts, Watcher.yield, Watcher.collect]) hpost

/-- As long as the engine runs and the session goes on, a watcher watches. -/
lemma Orderly.watching (h : Orderly grace turns w) (hrecorded : Recorded w) (hexit : w.exit? = none)
    (hopen : w.shutdownAt? = none) :
    w.rig.watcher.phase = .watching ∧ w.rig.child = .running ∧ w.killedAt? = none ∧ w.posts = [] := by
  have hspared : w.killedAt? = none := by
    refine Option.eq_none_iff_forall_ne_some.mpr fun k hk => ?_
    obtain ⟨s, hs, -⟩ := h.of_killed k hk
    rw [hs.shutdown] at hopen
    cases hopen
  have hkilled : w.rig.isKilled = false := by rw [hrecorded.isKilled_eq, hspared]; rfl
  have hstatus : w.rig.child.status? = none := by
    refine Option.eq_none_iff_forall_ne_some.mpr fun status hstatus => ?_
    rcases hrecorded.of_status status hstatus with ⟨e, he⟩ | ⟨hk, -⟩
    · rw [he] at hexit
      cases hexit
    · rw [hk] at hkilled
      cases hkilled
  have hbusy : ¬ w.rig.watcher.toil ≤ 3 := by
    intro hlow
    obtain ⟨status, hreaped⟩ := h.reaped_of_toil hlow
    rw [hreaped] at hstatus
    cases hstatus
  have hphase : w.rig.watcher.phase = .watching := by
    cases hphase : w.rig.watcher.phase with
    | watching => rfl
    | graced deadline =>
      obtain ⟨s, hs, -⟩ := h.of_graced deadline hphase
      rw [hs] at hopen
      cases hopen
    | killing =>
      obtain ⟨s, hs⟩ := h.of_killing hphase
      rw [hs.shutdown] at hopen
      cases hopen
    | mourning =>
      rw [h.of_mourning hphase] at hkilled
      cases hkilled
    | posting failure? => exact absurd (by simp [Watcher.toil, hphase]) hbusy
    | releasing hold => exact absurd (by cases hold <;> simp [Watcher.toil, hphase]) hbusy
    | done => exact absurd (by simp [Watcher.toil, hphase]) hbusy
  exact ⟨hphase, Watcher.running_of_status hstatus, hspared,
    h.of_unspent (by simp [Watcher.isSpent, hphase])⟩

/-- An engine that has ended is reported when the watcher has had enough turns, with the status that it has
ended with. -/
theorem reported_of_ended (hw : w = (start grace).course turns) {status : WaitStatus}
    (hended : w.rig.child.status? = some status) {later : List Turn}
    (hcalls : w.rig.watcher.toil ≤ calls later) :
    (w.course later).rig.watcher.isDone = true ∧
      (w.course later).posts = [exitFailure? (.ok status)] := by
  obtain ⟨hstatus, hdone⟩ := done_of_ended hended hcalls
  rw [← rig_course] at hstatus hdone
  have horderly : Orderly grace (turns ++ later) (w.course later) := by
    rw [hw, ← course_append]
    exact (orderly_course grace _).1
  obtain ⟨status', hreaped, hposts⟩ := horderly.posts_of_done hdone
  rw [hreaped] at hstatus
  cases hstatus
  exact ⟨by simp [Watcher.isDone, hdone], hposts⟩

/-- When the session has been shut down, the watcher comes to its end: it turns to the shutdown, the grace
period passes, it gives the engine up, and the engine ends if it has not ended before. -/
theorem reported_of_shutdown (hw : w = (start grace).course turns) (hshut : w.rig.isShutdown = true)
    {first second third : List Turn} {duration : Nat} (hfirst : 1 ≤ calls first)
    (hduration : grace ≤ duration) (hsecond : 2 ≤ calls second) (hthird : 4 ≤ calls third) :
    let later := first ++ .event (.elapse duration) :: second ++ .perish :: third
    ∃ status, (w.course later).rig.watcher.isDone = true ∧
      (w.course later).posts = [exitFailure? (.ok status)] := by
  intro later
  obtain ⟨-, htoil₁⟩ := yields_of_shutdown hshut hfirst
  rw [← rig_course] at htoil₁
  set w₁ := w.course first with hw₁
  have hstart₁ : w₁ = (start grace).course (turns ++ first) := by rw [course_append, ← hw]
  -- The deadline is at most the grace period away, and so it is over once that has passed.
  have hpressing : (w₁.turn (.event (.elapse duration))).rig.IsPressing := by
    refine ⟨htoil₁, fun deadline hphase => ?_⟩
    have horderly := (orderly_course grace (turns ++ first)).1
    rw [← hstart₁] at horderly
    obtain ⟨-, -, -, hnear⟩ := horderly.of_graced deadline hphase
    exact hnear.trans (Nat.add_le_add_left hduration _)
  have htoil₂ := mourns_of_pressing hpressing hsecond
  rw [← rig_course] at htoil₂
  set w₂ := (w₁.turn (.event (.elapse duration))).course second with hw₂
  have hstart₂ : w₂ = (start grace).course (turns ++ first ++ .event (.elapse duration) :: second) := by
    rw [course_append, ← hstart₁]
    rfl
  have horderly₂ := (orderly_course grace (turns ++ first ++ .event (.elapse duration) :: second)).1
  rw [← hstart₂] at horderly₂
  have hended : ∃ status, (w₂.turn .perish).rig.child.status? = some status := by
    rcases horderly₂.status_of_toil htoil₂ with hkilled | ⟨status, hstatus⟩
    · cases hchild : w₂.rig.child with
      | running =>
        refine ⟨.signalled 9, ?_⟩
        simp [Watch.turn, WatcherRig.turn, hkilled, hchild, Child.finish, Child.status?]
      | ended status => exact ⟨status, status_turn (by rw [hchild]; rfl) _⟩
      | reaped status => exact ⟨status, status_turn (by rw [hchild]; rfl) _⟩
    · exact ⟨status, status_turn hstatus _⟩
  obtain ⟨status, hstatus⟩ := hended
  have hstart₃ : w₂.turn .perish =
      (start grace).course (turns ++ first ++ .event (.elapse duration) :: second ++ [.perish]) := by
    rw [course_append, ← hstart₂]
    rfl
  have htoil₃ : (w₂.turn .perish).rig.watcher.toil ≤ calls third := by
    rw [show (w₂.turn .perish).rig.watcher = w₂.rig.watcher from (w₂.rig.turn_of_other (by simp)).1]
    omega
  have hlater : w.course later = (w₂.turn .perish).course third := by
    rw [show later = first ++ (.event (.elapse duration) :: second) ++ .perish :: third from rfl,
      course_append, course_append]
    rfl
  rw [hlater]
  exact ⟨status, reported_of_ended hstart₃ hstatus htoil₃⟩

/-! ### The choice -/

/-- Two watches that differ at most in how soon their watchers collect a status which is there. -/
structure Agree (w w' : Watch) : Prop where
  now : w.rig.now = w'.rig.now
  isShutdown : w.rig.isShutdown = w'.rig.isShutdown
  isKilled : w.rig.isKilled = w'.rig.isKilled
  status : w.rig.child.status? = w'.rig.child.status?
  shutdownAt : w.shutdownAt? = w'.shutdownAt?
  exit : w.exit? = w'.exit?
  killedAt : w.killedAt? = w'.killedAt?
  /-- The watchers are in the same place, or no engine is to be killed any more. -/
  alike : w.rig.watcher = w'.rig.watcher ∧ w.rig.child = w'.rig.child ∨
    w.rig.child.status? ≠ none ∧ w.rig.watcher.phase ≠ .killing ∧ w'.rig.watcher.phase ≠ .killing

/-- An engine ends the same way whoever has looked. -/
lemma status_finish (c : Child) (status : WaitStatus) :
    (c.finish status).status? = c.status?.or (some status) := by
  cases c <;> rfl

variable {w' : Watch}

/-- A watch agrees with itself. -/
lemma agree_self (w : Watch) : Agree w w :=
  ⟨rfl, rfl, rfl, rfl, rfl, rfl, rfl, .inl ⟨rfl, rfl⟩⟩

/-- Two watches agree after a turn if their rigs do. -/
lemma Agree.of_rig (h : Agree w w') {t t' : Turn}
    (hnow : (w.rig.turn t).now = (w'.rig.turn t').now)
    (hshutdown : (w.rig.turn t).isShutdown = (w'.rig.turn t').isShutdown)
    (hkilled : (w.rig.turn t).isKilled = (w'.rig.turn t').isKilled)
    (hstatus : (w.rig.turn t).child.status? = (w'.rig.turn t').child.status?)
    (hat : (w.turn t).shutdownAt? = (w'.turn t').shutdownAt?)
    (hexit : (w.turn t).exit? = (w'.turn t').exit?)
    (halike : (w.rig.turn t).watcher = (w'.rig.turn t').watcher ∧
        (w.rig.turn t).child = (w'.rig.turn t').child ∨
      (w.rig.turn t).child.status? ≠ none ∧ (w.rig.turn t).watcher.phase ≠ .killing ∧
        (w'.rig.turn t').watcher.phase ≠ .killing) :
    Agree (w.turn t) (w'.turn t') where
  now := hnow
  isShutdown := hshutdown
  isKilled := hkilled
  status := hstatus
  shutdownAt := hat
  exit := hexit
  killedAt := by simp only [Watch.turn, hkilled, h.killedAt, h.now]
  alike := halike

/-- Watches that agree go on to do so when something happens around both watchers. -/
lemma Agree.around (h : Agree w w') {t : Turn} (ht : ∀ prefersShutdown, t ≠ .watcher prefersShutdown) :
    Agree (w.turn t) (w'.turn t) := by
  have hother : ∀ rig : WatcherRig, (rig.turn t).watcher = rig.watcher :=
    fun rig => (rig.turn_of_other (fun p hp => absurd hp (ht p))).1
  have hends : ∀ c c' : Child, c.status? = c'.status? → (c = .running ↔ c' = .running) := by
    intro c c' hstatus
    cases c <;> cases c' <;> simp_all [Child.status?]
  have halike : (w.rig.child = w'.rig.child → (w.rig.turn t).child = (w'.rig.turn t).child) →
      (w.rig.turn t).watcher = (w'.rig.turn t).watcher ∧
          (w.rig.turn t).child = (w'.rig.turn t).child ∨
        (w.rig.turn t).child.status? ≠ none ∧ (w.rig.turn t).watcher.phase ≠ .killing ∧
          (w'.rig.turn t).watcher.phase ≠ .killing := by
    intro hchild
    rw [hother, hother]
    refine h.alike.imp (fun hsame => ⟨hsame.1, hchild hsame.2⟩) (fun hended => ⟨?_, hended.2⟩)
    obtain ⟨status, hstatus⟩ := Option.ne_none_iff_exists'.mp hended.1
    rw [status_turn hstatus t]
    exact Option.some_ne_none status
  cases t with
  | event e =>
    cases e with
    | exit status =>
      refine h.of_rig h.now h.isShutdown h.isKilled ?_ h.shutdownAt ?_ (halike fun hsame => ?_)
      · simp only [WatcherRig.turn, apply, status_finish, h.status]
      · simp only [Watch.turn, hends _ _ h.status, h.now, h.exit]
      · simp only [WatcherRig.turn, apply, hsame]
    | shutdown =>
      refine h.of_rig h.now rfl h.isKilled h.status ?_ h.exit (halike id)
      simp only [Watch.turn, h.shutdownAt, h.now]
    | elapse duration =>
      refine h.of_rig ?_ h.isShutdown h.isKilled h.status h.shutdownAt h.exit (halike id)
      simp only [WatcherRig.turn, apply, h.now]
    | dropNotices =>
      exact h.of_rig h.now h.isShutdown h.isKilled h.status h.shutdownAt h.exit (halike id)
  | perish =>
    have hturn : ∀ rig : WatcherRig, rig.turn .perish =
        { rig with child := if rig.isKilled then rig.child.finish (.signalled 9) else rig.child } := by
      intro rig
      simp only [WatcherRig.turn]
      split <;> rfl
    have hstatus : (w.rig.turn .perish).child.status? = (w'.rig.turn .perish).child.status? := by
      rw [hturn, hturn, ← h.isKilled]
      cases w.rig.isKilled with
      | true => simp only [if_true, status_finish, h.status]
      | false => exact h.status
    refine h.of_rig ?_ ?_ ?_ hstatus h.shutdownAt h.exit (halike fun hsame => ?_)
    · rw [hturn, hturn, h.now]
    · rw [hturn, hturn, h.isShutdown]
    · rw [hturn, hturn, h.isKilled]
    · rw [hturn, hturn, hsame, h.isKilled]
  | watcher prefersShutdown => exact absurd rfl (ht prefersShutdown)

/-- When the engine has ended and has not been given up, a step of the watcher changes nothing but the
watcher itself. -/
lemma spared_turn {rig : WatcherRig} {status : WaitStatus} (hstatus : rig.child.status? = some status)
    (hphase : rig.watcher.phase ≠ .killing) (prefersShutdown : Bool) :
    (rig.turn (.watcher prefersShutdown)).now = rig.now ∧
      (rig.turn (.watcher prefersShutdown)).isShutdown = rig.isShutdown ∧
      (rig.turn (.watcher prefersShutdown)).isKilled = rig.isKilled ∧
      (rig.turn (.watcher prefersShutdown)).watcher.phase ≠ .killing := by
  cases hstep : rig.watcher.step rig.isShutdown prefersShutdown rig.now rig.child with
  | none =>
    rw [turn_of_wait hstep]
    exact ⟨rfl, rfl, rfl, hphase⟩
  | some m =>
    obtain ⟨hact, hafter⟩ := Watcher.spared_of_step hstep hstatus hphase
    rw [turn_of_step hstep, witness_eq]
    exact ⟨rfl, rfl, by simp [hact], hafter⟩

/-- Watches that agree go on to do so when both watchers have a turn, whatever they prefer. -/
lemma Agree.watcher (h : Agree w w') (prefersShutdown prefersShutdown' : Bool) :
    Agree (w.turn (.watcher prefersShutdown)) (w'.turn (.watcher prefersShutdown')) := by
  have hspared : ∀ status, w.rig.child.status? = some status → w.rig.watcher.phase ≠ .killing →
      w'.rig.watcher.phase ≠ .killing →
      Agree (w.turn (.watcher prefersShutdown)) (w'.turn (.watcher prefersShutdown')) := by
    intro status hstatus hphase hphase'
    have hstatus' := h.status ▸ hstatus
    obtain ⟨hnow, hshut, hkilled, hafter⟩ := spared_turn hstatus hphase prefersShutdown
    obtain ⟨hnow', hshut', hkilled', hafter'⟩ := spared_turn hstatus' hphase' prefersShutdown'
    have hkept := status_turn hstatus (.watcher prefersShutdown)
    have hkept' := status_turn hstatus' (.watcher prefersShutdown')
    refine h.of_rig ?_ ?_ ?_ (hkept.trans hkept'.symm) h.shutdownAt h.exit (.inr ⟨?_, hafter, hafter'⟩)
    · rw [hnow, hnow', h.now]
    · rw [hshut, hshut', h.isShutdown]
    · rw [hkilled, hkilled', h.isKilled]
    · rw [hkept]
      exact Option.some_ne_none status
  rcases h.alike with ⟨hwatcher, hchild⟩ | ⟨hended, hphase, hphase'⟩
  · by_cases hfree : w.rig.watcher.phase ≠ .watching ∨ w.rig.child.status? = none
    · -- Both watchers take the same step, or neither takes any.
      have hsame : w'.rig.watcher.step w'.rig.isShutdown prefersShutdown' w'.rig.now w'.rig.child =
          w.rig.watcher.step w.rig.isShutdown prefersShutdown w.rig.now w.rig.child := by
        rw [← hwatcher, ← hchild, ← h.now, ← h.isShutdown]
        exact Watcher.step_congr hfree prefersShutdown
      cases hstep : w.rig.watcher.step w.rig.isShutdown prefersShutdown w.rig.now w.rig.child with
      | none =>
        have hturn := turn_of_wait hstep
        have hturn' := turn_of_wait (hsame.trans hstep)
        refine h.of_rig ?_ ?_ ?_ ?_ h.shutdownAt h.exit (.inl ⟨?_, ?_⟩) <;> rw [hturn, hturn']
        exacts [h.now, h.isShutdown, h.isKilled, h.status, hwatcher, hchild]
      | some m =>
        have hturn := turn_of_step hstep
        have hturn' := turn_of_step (hsame.trans hstep)
        rw [witness_eq] at hturn hturn'
        refine h.of_rig ?_ ?_ ?_ ?_ h.shutdownAt h.exit (.inl ⟨?_, ?_⟩) <;> rw [hturn, hturn']
        · exact h.now
        · exact h.isShutdown
        · simp only [h.isKilled]
    · obtain ⟨hwatching, hended⟩ := not_or.mp hfree
      rw [not_not] at hwatching
      obtain ⟨status, hstatus⟩ := Option.ne_none_iff_exists'.mp hended
      refine hspared status hstatus ?_ ?_
      · simp [hwatching]
      · simp [← hwatcher, hwatching]
  · obtain ⟨status, hstatus⟩ := Option.ne_none_iff_exists'.mp hended
    exact hspared status hstatus hphase hphase'

/-- Watches agree after courses that differ only in what the watcher prefers. -/
theorem agree_course (h : Agree w w') {turns turns' : List Turn}
    (hplain : turns'.map Turn.plain = turns.map Turn.plain) : Agree (w.course turns) (w'.course turns') := by
  induction turns generalizing w w' turns' with
  | nil =>
    rw [List.map_nil, List.map_eq_nil_iff] at hplain
    rw [hplain]
    exact h
  | cons t turns ih =>
    obtain ⟨t', rest, rfl, ht, hrest⟩ := List.map_eq_cons_iff.mp hplain
    have hturn : Agree (w.turn t) (w'.turn t') := by
      cases t with
      | event e =>
        obtain rfl : t' = .event e := by cases t' <;> simp_all [Turn.plain]
        exact h.around (fun _ => by simp)
      | perish =>
        obtain rfl : t' = .perish := by cases t' <;> simp_all [Turn.plain]
        exact h.around (fun _ => by simp)
      | watcher prefersShutdown =>
        obtain ⟨prefersShutdown', rfl⟩ : ∃ prefersShutdown', t' = .watcher prefersShutdown' := by
          cases t' <;> simp_all [Turn.plain]
        exact h.watcher prefersShutdown prefersShutdown'
    exact ih hturn hrest

end Watch

/-- Whatever happens around a watcher, whenever it has its turns, and whatever it prefers:

* it posts at most once, and exactly once by the time it is done, and only when the status of the engine
  has been collected; what it posts is what that status means.
* It kills the engine only if the session has been shut down and the engine was running at a moment when
  the grace period after that had passed.  An engine that ends by itself before that is not killed, and
  is reported with its own status.
* It comes to its end when the engine has ended, and when the session has been shut down.  Until one of
  these it watches.
* Courses that differ only in what the watcher prefers agree in everything but the time of the report. -/
theorem report_of_course (grace : Nat) (turns : List Turn) :
    let w := (Watch.start grace).course turns
    (w.rig = WatcherRig.course { watcher := { grace := grace } } turns ∧
      (w.rig.hasListener = true →
        w.rig.noticesRev.reverse = w.posts.map fun failure? => ⟨.processWait, failure?⟩)) ∧
    (w.posts = [] ∧ w.rig.watcher.isDone = false ∨
      ∃ status, w.rig.child = .reaped status ∧ w.posts = [exitFailure? (.ok status)]) ∧
    (∀ t, (w.turn t).posts ≠ w.posts → ∃ status, w.rig.child = .reaped status) ∧
    (∀ status, w.rig.child.status? = some status →
      (∃ e, w.exit? = some (e, status)) ∨ w.killedAt?.isSome = true ∧ status = .signalled 9) ∧
    (∀ k, w.killedAt? = some k → ∃ s, w.shutdownAt? = some s ∧ s + grace ≤ k ∧
      ∃ before after, turns = before ++ after ∧
        ((Watch.start grace).course before).shutdownAt? = some s ∧
        s + grace ≤ ((Watch.start grace).course before).rig.now ∧
        ((Watch.start grace).course before).rig.child = .running) ∧
    (∀ e status, w.exit? = some (e, status) → w.rig.child.status? = some status ∧
      (∀ failure? ∈ w.posts, failure? = exitFailure? (.ok status)) ∧
      ((∀ s, w.shutdownAt? = some s → e < s + grace) → w.killedAt? = none)) ∧
    (w.exit? = none → w.shutdownAt? = none → w.rig.watcher.phase = .watching ∧
      w.rig.child = .running ∧ w.killedAt? = none ∧ w.posts = []) ∧
    (∀ status, w.rig.child.status? = some status → ∀ later, 7 ≤ calls later →
      (w.course later).rig.watcher.isDone = true ∧
        (w.course later).posts = [exitFailure? (.ok status)]) ∧
    (w.rig.isShutdown = true → ∀ first second third duration, 1 ≤ calls first → 2 ≤ calls second →
      4 ≤ calls third → grace ≤ duration →
      let later := first ++ .event (.elapse duration) :: second ++ .perish :: third
      ∃ status, (w.course later).rig.watcher.isDone = true ∧
        (w.course later).posts = [exitFailure? (.ok status)]) ∧
    ∀ turns', turns'.map Turn.plain = turns.map Turn.plain →
      let w' := (Watch.start grace).course turns'
      w'.killedAt? = w.killedAt? ∧ w'.rig.child.status? = w.rig.child.status? ∧
        ∀ failure? ∈ w.posts, ∀ failure?' ∈ w'.posts, failure?' = failure? := by
  intro w
  obtain ⟨h, hrecorded⟩ : Watch.Orderly grace turns w ∧ w.Recorded := Watch.orderly_course grace turns
  refine ⟨⟨Watch.rig_course _ turns, h.noticed⟩, h.posts_cases, fun t hpost => ?_,
    fun status hstatus => ?_,
    fun k hk => ?_,
    fun e status hexit => ⟨hrecorded.of_exit e status hexit, ?_, fun hearly => ?_⟩,
    h.watching hrecorded, fun status hstatus later hcalls => ?_,
    fun hshut first second third duration hfirst hsecond hthird hduration => ?_,
    fun turns' hplain => ?_⟩
  · have hposts : (w.turn t).posts = w.posts ++ w.rig.posted t := rfl
    have hsome : w.rig.posted t ≠ [] := by
      intro hnone
      rw [hnone, List.append_nil] at hposts
      exact hpost hposts
    exact h.reaped_of_post hsome
  · rw [← hrecorded.isKilled_eq]
    exact hrecorded.of_status status hstatus
  · obtain ⟨s, hoverdue, hle⟩ := h.of_killed k hk
    exact ⟨s, hoverdue.shutdown, hle, hoverdue.moment⟩
  · intro failure? hmem
    obtain ⟨status', hstatus, hfailure⟩ := h.status_of_posts hmem
    rw [hrecorded.of_exit e status hexit] at hstatus
    cases hstatus
    exact hfailure
  · refine Option.eq_none_iff_forall_ne_some.mpr fun k hk => ?_
    obtain ⟨s, hoverdue, -⟩ := h.of_killed k hk
    have hlate := hoverdue.le_exit e status hexit
    have hsoon := hearly s hoverdue.shutdown
    omega
  · exact Watch.reported_of_ended rfl hstatus (w.rig.watcher.toil_le.trans hcalls)
  · exact Watch.reported_of_shutdown rfl hshut hfirst hduration hsecond hthird
  · intro w'
    have h' : Watch.Orderly grace turns' w' := (Watch.orderly_course grace turns').1
    have hagree : Watch.Agree w w' := Watch.agree_course (Watch.agree_self _) hplain
    refine ⟨hagree.killedAt.symm, hagree.status.symm, fun failure? hmem failure?' hmem' => ?_⟩
    obtain ⟨status, hstatus, hfailure⟩ := h.status_of_posts hmem
    obtain ⟨status', hstatus', hfailure'⟩ := h'.status_of_posts hmem'
    rw [← hagree.status, hstatus] at hstatus'
    cases hstatus'
    rw [hfailure, hfailure']

/-- The engine ends while the session is being shut down.  A watcher that prefers the end and one that
prefers the shutdown report the same. -/
theorem report_of_simultaneous_end :
    let around : List Turn := [.event (.exit (.exited 3)), .event .shutdown]
    let w := (Watch.start 5).course (around ++ List.replicate 6 (.watcher false))
    let w' := (Watch.start 5).course (around ++ List.replicate 6 (.watcher true))
    w.exit? = some (0, .exited 3) ∧ w.shutdownAt? = some 0 ∧ w.killedAt? = none ∧
      w'.killedAt? = none ∧ w.posts = [some (.exitCode 3)] ∧
      ∀ failure? ∈ w'.posts, failure? = some (.exitCode 3) := by
  intro around w w'
  obtain ⟨-, -, -, -, -, hexited, -, -, -, hchoice⟩ :=
    report_of_course 5 (around ++ List.replicate 6 (.watcher false))
  have hexit : w.exit? = some (0, .exited 3) := by decide +kernel
  have hshutdown : w.shutdownAt? = some 0 := by decide +kernel
  have hposts : w.posts = [some (.exitCode 3)] := by decide +kernel
  obtain ⟨-, -, hspared⟩ := hexited 0 (.exited 3) hexit
  have hkilled : w.killedAt? = none := by
    refine hspared fun s hs => ?_
    rw [hshutdown] at hs
    cases hs
    decide
  obtain ⟨hkilled', -, hsame⟩ :=
    hchoice (around ++ List.replicate 6 (.watcher true)) (by decide +kernel)
  refine ⟨hexit, hshutdown, hkilled, hkilled'.trans hkilled, hposts, fun failure? hmem => ?_⟩
  exact hsame _ (by rw [hposts]; exact List.mem_singleton_self _) failure? hmem

/-- An engine that does not end in time is killed when the grace period is over. -/
example :
    let w := (Watch.start 5).course ([.event .shutdown, .watcher false, .event (.elapse 5)] ++
      List.replicate 2 (.watcher false) ++ .perish :: List.replicate 4 (.watcher false))
    w.killedAt? = some 5 ∧ w.posts = [some .exitBySignal] := by
  decide +kernel

end Traversal.WatcherRig
