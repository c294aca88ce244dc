import Mathlib
import Traversal.Proofs.Reports
import Traversal.Proofs.Stopping
import Traversal.Rig.Watcher

/-!
# Courses of a watcher

A course of a watcher by itself is any order of turns: something happens around it, an engine that has
been killed ends, or the watcher takes a step, with either preference.  That the watcher comes to its end
follows from a bound that each of its turns lowers unless it has to wait (`toil_course`).

A `Watch` goes along with a course and writes down when the session was shut down, when and how the engine
ended by itself, when it was killed, and what has been posted.  `Watch.Orderly` is the invariant of all
courses; it rests on `Watcher.motion_of_step`.
-/

namespace Traversal

open Engine

/-- What a watcher posts when it shows this. -/
def Watcher.Act.posts : Watcher.Act → List (Option Failure)
  | .post failure? => [failure?]
  | _ => []

namespace Watcher

/-- No watcher takes more steps than this. -/
lemma toil_le (w : Watcher) : w.toil ≤ 7 := by
  unfold toil
  split <;> omega

/-- A watcher that takes no step any more is done. -/
lemma phase_of_toil {w : Watcher} (h : w.toil = 0) : w.phase = .done := by
  unfold toil at h
  split at h
  · assumption
  all_goals cases h

end Watcher

namespace WatcherRig

/-- One turn of a course. -/
inductive Turn
  | event (event : Event)
  /-- An engine that has been killed ends, unless it has ended before. -/
  | perish
  /-- The watcher takes a step, if it can. -/
  | watcher (prefersShutdown : Bool)
deriving DecidableEq, Repr

/-- A rig after a turn. -/
def turn (rig : WatcherRig) : Turn → WatcherRig
  | .event e => rig.apply e
  | .perish => if rig.isKilled then { rig with child := rig.child.finish (.signalled 9) } else rig
  | .watcher prefersShutdown => (rig.step prefersShutdown).getD rig

/-- A rig after a course. -/
def course (rig : WatcherRig) (turns : List Turn) : WatcherRig :=
  turns.foldl turn rig

/-- What the watcher posts in a turn, whether or not anybody listens. -/
def posted (rig : WatcherRig) : Turn → List (Option Failure)
  | .watcher prefersShutdown =>
    match rig.watcher.step rig.isShutdown prefersShutdown rig.now rig.child with
    | some m => m.act.posts
    | none => []
  | _ => []

/-- A turn without the watcher's preference. -/
def Turn.plain : Turn → Turn
  | .watcher _ => .watcher false
  | t => t

/-- The number of turns that a watcher has in a course. -/
def calls (turns : List Turn) : Nat :=
  turns.countP fun t => t.plain = .watcher false

/-- What others see of a watcher kills the engine or reaches whoever listens. -/
lemma witness_eq (rig : WatcherRig) (act : Watcher.Act) :
    rig.witness act =
      { rig with
        isKilled := rig.isKilled || act = .kill
        noticesRev :=
          if rig.hasListener then
            act.posts.map (fun failure? => ⟨.processWait, failure?⟩) ++ rig.noticesRev
          else rig.noticesRev } := by
  cases act with
  | inner => simp [witness, Watcher.Act.posts]
  | kill => simp [witness, Watcher.Act.posts]
  | post failure? =>
    simp only [witness, Watcher.Act.posts]
    split <;> simp
  | release hold => simp [witness, Watcher.Act.posts]

/-- A rig after a step of the watcher. -/
lemma turn_of_step {rig : WatcherRig} {prefersShutdown : Bool} {m : Watcher.Move}
    (h : rig.watcher.step rig.isShutdown prefersShutdown rig.now rig.child = some m) :
    rig.turn (.watcher prefersShutdown) =
      { rig with watcher := m.watcher, child := m.child }.witness m.act := by
  simp [turn, step, h]

/-- A rig whose watcher can take no step stays as it is. -/
lemma turn_of_wait {rig : WatcherRig} {prefersShutdown : Bool}
    (h : rig.watcher.step rig.isShutdown prefersShutdown rig.now rig.child = none) :
    rig.turn (.watcher prefersShutdown) = rig := by
  simp [turn, step, h]

/-- Time does not go back. -/
lemma now_le_turn (rig : WatcherRig) (t : Turn) : rig.now ≤ (rig.turn t).now := by
  cases t with
  | event e => cases e <;> simp [turn, apply]
  | perish =>
    simp only [turn]
    split <;> exact Nat.le_refl _
  | watcher prefersShutdown =>
    cases hstep : rig.watcher.step rig.isShutdown prefersShutdown rig.now rig.child with
    | none => rw [turn_of_wait hstep]
    | some m => rw [turn_of_step hstep, witness_eq]

/-- A turn in which the watcher takes no step leaves the watcher as it is, shows nothing, and does nothing
to a status that has been collected. -/
lemma turn_of_other (rig : WatcherRig) {t : Turn}
    (ht : ∀ prefersShutdown, t = .watcher prefersShutdown → rig.step prefersShutdown = none) :
    (rig.turn t).watcher = rig.watcher ∧ (rig.turn t).isKilled = rig.isKilled ∧
      (rig.turn t).noticesRev = rig.noticesRev ∧ rig.posted t = [] ∧
      ((rig.turn t).hasListener = true → rig.hasListener = true) ∧
      ∀ status, rig.child = .reaped status → (rig.turn t).child = .reaped status := by
  cases t with
  | event e =>
    cases e with
    | exit status =>
      refine ⟨rfl, rfl, rfl, rfl, id, fun _ h => ?_⟩
      simp [turn, apply, h, Child.finish]
    | shutdown => exact ⟨rfl, rfl, rfl, rfl, id, fun _ h => h⟩
    | elapse duration => exact ⟨rfl, rfl, rfl, rfl, id, fun _ h => h⟩
    | dropNotices => exact ⟨rfl, rfl, rfl, rfl, by simp [turn, apply], fun _ h => h⟩
  | perish =>
    simp only [turn]
    split
    · exact ⟨rfl, rfl, rfl, rfl, id, fun _ h => by simp [h, Child.finish]⟩
    · exact ⟨rfl, rfl, rfl, rfl, id, fun _ h => h⟩
  | watcher prefersShutdown =>
    have hstep := Option.map_eq_none_iff.mp (ht prefersShutdown rfl)
    rw [turn_of_wait hstep]
    exact ⟨rfl, rfl, rfl, by simp [posted, hstep], id, fun _ h => h⟩

/-- An engine that has ended does not end again. -/
lemma finish_of_status {c : Child} {status : WaitStatus} (h : c.status? = some status)
    (status' : WaitStatus) : c.finish status' = c := by
  cases c with
  | running => cases h
  | ended _ => rfl
  | reaped _ => rfl

/-- An engine that has ended keeps its status. -/
lemma status_turn {rig : WatcherRig} {status : WaitStatus} (h : rig.child.status? = some status)
    (t : Turn) : (rig.turn t).child.status? = some status := by
  cases t with
  | event e =>
    cases e with
    | exit status' => simpa [turn, apply, finish_of_status h] using h
    | shutdown => exact h
    | elapse duration => exact h
    | dropNotices => exact h
  | perish =>
    simp only [turn, finish_of_status h]
    split <;> exact h
  | watcher prefersShutdown =>
    cases hstep : rig.watcher.step rig.isShutdown prefersShutdown rig.now rig.child with
    | none => rwa [turn_of_wait hstep]
    | some m =>
      rw [turn_of_step hstep, witness_eq]
      exact (Watcher.status_of_step hstep).trans h

/-! ### Coming to an end -/

/-- As long as a watcher need not wait above a bound, it comes down to the bound when it has had enough
turns, whatever happens between them. -/
theorem toil_course (P : WatcherRig → Prop) (bound : Nat) (hkeep : ∀ rig t, P rig → P (rig.turn t))
    (hmoves : ∀ rig prefersShutdown, P rig → bound < rig.watcher.toil →
      rig.step prefersShutdown ≠ none)
    {rig : WatcherRig} (h : P rig) (turns : List Turn)
    (hcalls : rig.watcher.toil ≤ bound + calls turns) :
    P (rig.course turns) ∧ (rig.course turns).watcher.toil ≤ bound := by
  induction turns generalizing rig with
  | nil => exact ⟨h, hcalls⟩
  | cons t turns ih =>
    refine ih (hkeep rig t h) ?_
    have hcons : calls (t :: turns) = calls turns + if t.plain = .watcher false then 1 else 0 := by
      simp [calls, List.countP_cons]
    cases t with
    | event e =>
      rw [(rig.turn_of_other (by simp)).1]
      simpa [hcons, Turn.plain] using hcalls
    | perish =>
      rw [(rig.turn_of_other (by simp)).1]
      simpa [hcons, Turn.plain] using hcalls
    | watcher prefersShutdown =>
      have hcalls' : rig.watcher.toil ≤ bound + (calls turns + 1) := by
        simpa [hcons, Turn.plain] using hcalls
      cases hstep : rig.watcher.step rig.isShutdown prefersShutdown rig.now rig.child with
      | none =>
        have hlow : ¬ bound < rig.watcher.toil :=
          fun hlt => hmoves rig prefersShutdown h hlt (by simp [step, hstep])
        rw [turn_of_wait hstep]
        omega
      | some m =>
        have hlt := Watcher.toil_lt_of_step hstep
        rw [turn_of_step hstep, witness_eq]
        change m.watcher.toil ≤ _
        omega

/-- A watcher whose engine has ended comes to its end. -/
lemma done_of_ended {rig : WatcherRig} {status : WaitStatus} (h : rig.child.status? = some status)
    {turns : List Turn} (hcalls : rig.watcher.toil ≤ calls turns) :
    (rig.course turns).child.status? = some status ∧ (rig.course turns).watcher.phase = .done := by
  have hmoves : ∀ (rig : WatcherRig) prefersShutdown, rig.child.status? = some status →
      0 < rig.watcher.toil → rig.step prefersShutdown ≠ none := by
    intro rig prefersShutdown hended htoil hstep
    rcases Watcher.stalls_of_step (Option.map_eq_none_iff.mp hstep) with hdone | ⟨hrunning, -⟩
    · simp [Watcher.toil, hdone] at htoil
    · rw [hrunning] at hended
      cases hended
  obtain ⟨hended, htoil⟩ := toil_course (fun rig => rig.child.status? = some status) 0
    (fun _ t hended => status_turn hended t) hmoves h turns (by omega)
  exact ⟨hended, Watcher.phase_of_toil (Nat.le_zero.mp htoil)⟩

/-- A watcher that has been told to stop stops watching. -/
lemma yields_of_shutdown {rig : WatcherRig} (h : rig.isShutdown = true) {turns : List Turn}
    (hcalls : 1 ≤ calls turns) :
    (rig.course turns).isShutdown = true ∧ (rig.course turns).watcher.toil ≤ 6 := by
  have hkeep : ∀ (rig : WatcherRig) t, rig.isShutdown = true → (rig.turn t).isShutdown = true := by
    intro rig t hshut
    cases t with
    | event e => cases e <;> simp [turn, apply, hshut]
    | perish =>
      simp only [turn]
      split <;> exact hshut
    | watcher prefersShutdown =>
      cases hstep : rig.watcher.step rig.isShutdown prefersShutdown rig.now rig.child with
      | none => rwa [turn_of_wait hstep]
      | some m =>
        rw [turn_of_step hstep, witness_eq]
        exact hshut
  have hmoves : ∀ (rig : WatcherRig) prefersShutdown, rig.isShutdown = true →
      6 < rig.watcher.toil → rig.step prefersShutdown ≠ none := by
    intro rig prefersShutdown hshut htoil hstep
    rcases Watcher.stalls_of_step (Option.map_eq_none_iff.mp hstep) with hdone |
      ⟨-, ⟨-, hopen⟩ | ⟨deadline, hphase, -⟩ | hphase⟩
    · simp [Watcher.toil, hdone] at htoil
    · rw [hshut] at hopen
      cases hopen
    · simp [Watcher.toil, hphase] at htoil
    · simp [Watcher.toil, hphase] at htoil
  have hbound := rig.watcher.toil_le
  exact toil_course (fun rig => rig.isShutdown = true) 6 hkeep hmoves h turns (by omega)

/-- Whether a watcher does not watch any more, and does not give the engine more time. -/
def IsPressing (rig : WatcherRig) : Prop :=
  rig.watcher.toil ≤ 6 ∧ ∀ deadline, rig.watcher.phase = .graced deadline → deadline ≤ rig.now

/-- A watcher whose patience has come to an end collects the status of the engine or mourns it. -/
lemma mourns_of_pressing {rig : WatcherRig} (h : rig.IsPressing) {turns : List Turn}
    (hcalls : 2 ≤ calls turns) : (rig.course turns).watcher.toil ≤ 4 := by
  have hkeep : ∀ (rig : WatcherRig) t, rig.IsPressing → (rig.turn t).IsPressing := by
    intro rig t hpressing
    have hother : (rig.turn t).watcher = rig.watcher → (rig.turn t).IsPressing := by
      intro hsame
      refine ⟨hsame ▸ hpressing.1, fun deadline hphase => ?_⟩
      exact (hpressing.2 deadline (hsame ▸ hphase)).trans (rig.now_le_turn t)
    cases t with
    | event e => exact hother (rig.turn_of_other (by simp)).1
    | perish => exact hother (rig.turn_of_other (by simp)).1
    | watcher prefersShutdown =>
      cases hstep : rig.watcher.step rig.isShutdown prefersShutdown rig.now rig.child with
      | none => exact hother (by rw [turn_of_wait hstep])
      | some m =>
        have htoil := Watcher.toil_lt_of_step hstep
        have hwatcher : (rig.turn (.watcher prefersShutdown)).watcher = m.watcher := by
          rw [turn_of_step hstep, witness_eq]
        have hbefore := hpressing.1
        refine ⟨by rw [hwatcher]; omega, fun deadline hphase => ?_⟩
        rw [hwatcher] at hphase
        have hsix : m.watcher.toil = 6 := by simp [Watcher.toil, hphase]
        omega
  have hmoves : ∀ (rig : WatcherRig) prefersShutdown, rig.IsPressing → 4 < rig.watcher.toil →
      rig.step prefersShutdown ≠ none := by
    intro rig prefersShutdown hpressing htoil hstep
    rcases Watcher.stalls_of_step (Option.map_eq_none_iff.mp hstep) with hdone |
      ⟨-, ⟨hphase, -⟩ | ⟨deadline, hphase, hearly⟩ | hphase⟩
    · simp [Watcher.toil, hdone] at htoil
    · have hlow := hpressing.1
      simp [Watcher.toil, hphase] at hlow
    · have hlate := hpressing.2 deadline hphase
      omega
    · simp [Watcher.toil, hphase] at htoil
  have hbefore := h.1
  exact (toil_course IsPressing 4 hkeep hmoves h turns (by omega)).2

/-! ### The watch -/

/-- A rig, and what has become of the engine. -/
structure Watch where
  rig : WatcherRig
  /-- The time of the shutdown. -/
  shutdownAt? : Option Nat := none
  /-- When and how the engine ended by itself. -/
  exit? : Option (Nat × WaitStatus) := none
  /-- The time at which the watcher told the engine to die. -/
  killedAt? : Option Nat := none
  /-- All that the watcher has posted, whether or not anybody listens. -/
  posts : List (Option Failure) := []

namespace Watch

/-- A watch at the start. -/
def start (grace : Nat) : Watch where
  rig := { watcher := { grace := grace } }

/-- A watch after a turn. -/
def turn (w : Watch) (t : Turn) : Watch where
  rig := w.rig.turn t
  shutdownAt? := if t = .event .shutdown then w.shutdownAt?.or (some w.rig.now) else w.shutdownAt?
  exit? :=
    match t with
    | .event (.exit status) =>
      if w.rig.child = .running then some (w.rig.now, status) else w.exit?
    | _ => w.exit?
  killedAt? := if (w.rig.turn t).isKilled then w.killedAt?.or (some w.rig.now) else none
  posts := w.posts ++ w.rig.posted t

/-- A watch after a course. -/
def course (w : Watch) (turns : List Turn) : Watch :=
  turns.foldl turn w

/-- The rig of a watch goes its course. -/
lemma rig_course (w : Watch) (turns : List Turn) : (w.course turns).rig = w.rig.course turns := by
  induction turns generalizing w with
  | nil => rfl
  | cons t turns ih => exact ih (w.turn t)

/-! ### The invariant -/

/-- At some moment of a course, the session had been shut down, the grace period had passed, and the
engine was running. -/
structure Overdue (grace : Nat) (turns : List Turn) (w : Watch) (s : Nat) : Prop where
  shutdown : w.shutdownAt? = some s
  le_now : s + grace ≤ w.rig.now
  le_exit : ∀ e status, w.exit? = some (e, status) → s + grace ≤ e
  moment : ∃ before after, turns = before ++ after ∧
    ((start grace).course before).shutdownAt? = some s ∧
    s + grace ≤ ((start grace).course before).rig.now ∧
    ((start grace).course before).rig.child = .running

/-- What is written down is true. -/
structure Recorded (w : Watch) : Prop where
  isShutdown_eq : w.rig.isShutdown = w.shutdownAt?.isSome
  shutdown_le : ∀ s, w.shutdownAt? = some s → s ≤ w.rig.now
  isKilled_eq : w.rig.isKilled = w.killedAt?.isSome
  of_exit : ∀ e status, w.exit? = some (e, status) → w.rig.child.status? = some status
  of_status : ∀ status, w.rig.child.status? = some status →
    (∃ e, w.exit? = some (e, status)) ∨ w.rig.isKilled = true ∧ status = .signalled 9

/-- What holds of a watch after any course. -/
structure Orderly (grace : Nat) (turns : List Turn) (w : Watch) : Prop where
  grace_eq : w.rig.watcher.grace = grace
  /-- The deadline is as far from the shutdown as the grace period is long, and not further from now. -/
  of_graced : ∀ deadline, w.rig.watcher.phase = .graced deadline →
    ∃ s, w.shutdownAt? = some s ∧ s + grace ≤ deadline ∧ deadline ≤ w.rig.now + grace
  of_killing : w.rig.watcher.phase = .killing → ∃ s, Overdue grace turns w s
  of_mourning : w.rig.watcher.phase = .mourning → w.rig.isKilled = true
  of_killed : ∀ k, w.killedAt? = some k → ∃ s, Overdue grace turns w s ∧ s + grace ≤ k
  of_posting : ∀ failure?, w.rig.watcher.phase = .posting failure? →
    ∃ status, w.rig.child = .reaped status ∧ failure? = exitFailure? (.ok status)
  of_unspent : w.rig.watcher.isSpent = false → w.posts = []
  of_spent : w.rig.watcher.isSpent = true →
    ∃ status, w.rig.child = .reaped status ∧ w.posts = [exitFailure? (.ok status)]
  noticed : w.rig.hasListener = true →
    w.rig.noticesRev.reverse = w.posts.map fun failure? => ⟨.processWait, failure?⟩

variable {grace : Nat} {turns : List Turn} {w : Watch}

/-- What is written down at the start is true. -/
lemma recorded_start (grace : Nat) : Recorded (start grace) where
  isShutdown_eq := rfl
  shutdown_le := by simp [start]
  isKilled_eq := rfl
  of_exit := by simp [start]
  of_status := by simp [start, Child.status?]

/-- The invariant holds at the start. -/
lemma orderly_start (grace : Nat) : Orderly grace [] (start grace) where
  grace_eq := rfl
  of_graced := by simp [start]
  of_killing := by simp [start]
  of_mourning := by simp [start]
  of_killed := by simp [start]
  of_posting := by simp [start]
  of_unspent := fun _ => rfl
  of_spent := by simp [start, Watcher.isSpent]
  noticed := fun _ => rfl

/-- Whether the engine has been killed is written down in every turn. -/
lemma isKilled_turn (w : Watch) (t : Turn) :
    (w.turn t).rig.isKilled = (w.turn t).killedAt?.isSome := by
  simp only [Watch.turn]
  split
  · next hkilled => cases w.killedAt? <;> simpa using hkilled
  · next hspared => simpa using hspared

/-- A turn in which the session is not shut down and the engine does not end writes down what is true. -/
lemma Recorded.keep (h : Recorded w) {t : Turn}
    (hshutdown : (w.rig.turn t).isShutdown = w.rig.isShutdown)
    (hkilled : w.rig.isKilled = true → (w.rig.turn t).isKilled = true)
    (hstatus : (w.rig.turn t).child.status? = w.rig.child.status?)
    (hat : (w.turn t).shutdownAt? = w.shutdownAt?) (hexit : (w.turn t).exit? = w.exit?) :
    Recorded (w.turn t) where
  isShutdown_eq := by
    rw [hat, ← h.isShutdown_eq]
    exact hshutdown
  shutdown_le := fun s hs => (h.shutdown_le s (hat ▸ hs)).trans (w.rig.now_le_turn t)
  isKilled_eq := w.isKilled_turn t
  of_exit := fun e status he => hstatus.trans (h.of_exit e status (hexit ▸ he))
  of_status := fun status hs => by
    rw [hexit]
    exact (h.of_status status (hstatus.symm.trans hs)).imp_right fun hk => ⟨hkilled hk.1, hk.2⟩

/-- A turn in which the engine ends, by itself or because it has been killed, writes down what is true. -/
lemma Recorded.ends (h : Recorded w) {t : Turn} (status : WaitStatus) (hrunning : w.rig.child = .running)
    (hturn : w.rig.turn t = { w.rig with child := .ended status })
    (hat : (w.turn t).shutdownAt? = w.shutdownAt?)
    (hcause : (w.turn t).exit? = some (w.rig.now, status) ∨
      (w.turn t).exit? = w.exit? ∧ w.rig.isKilled = true ∧ status = .signalled 9) :
    Recorded (w.turn t) := by
  have hrig : (w.turn t).rig = { w.rig with child := .ended status } := hturn
  have hbefore : w.exit? = none := by
    refine Option.eq_none_iff_forall_ne_some.mpr fun exit hexit => ?_
    have hstatus := h.of_exit exit.1 exit.2 hexit
    rw [hrunning] at hstatus
    cases hstatus
  exact
    { isShutdown_eq := by
        rw [hrig, hat]
        exact h.isShutdown_eq
      shutdown_le := by
        rw [hrig, hat]
        exact h.shutdown_le
      isKilled_eq := w.isKilled_turn t
      of_exit := fun e status' he => by
        rcases hcause with hexit | ⟨hexit, -⟩
        · rw [hexit] at he
          cases he
          rw [hrig]
          rfl
        · rw [hexit, hbefore] at he
          cases he
      of_status := fun status' hs => by
        rw [hrig] at hs ⊢
        cases hs
        exact hcause.imp (fun hexit => ⟨w.rig.now, hexit⟩) And.right }

/-- A turn writes down what is true. -/
lemma Recorded.turn (h : Recorded w) (t : Turn) : Recorded (w.turn t) := by
  have hsame : ∀ {t : Turn}, w.rig.turn t = w.rig → (w.turn t).shutdownAt? = w.shutdownAt? →
      (w.turn t).exit? = w.exit? → Recorded (w.turn t) := by
    intro t hturn hat hexit
    exact h.keep (by rw [hturn]) (by rw [hturn]; exact id) (by rw [hturn]) hat hexit
  cases t with
  | event e =>
    cases e with
    | exit status =>
      cases hstatus : w.rig.child.status? with
      | none =>
        have hrunning := Watcher.running_of_status hstatus
        refine h.ends status hrunning ?_ rfl (.inl ?_)
        · simp [WatcherRig.turn, apply, hrunning, Child.finish]
        · simp [Watch.turn, hrunning]
      | some status' =>
        have hnot : w.rig.child ≠ .running := by
          intro hrunning
          rw [hrunning] at hstatus
          cases hstatus
        refine hsame ?_ rfl ?_
        · simp [WatcherRig.turn, apply, finish_of_status hstatus status]
        · simp [Watch.turn, hnot]
    | shutdown =>
      have hat : (w.turn (.event .shutdown)).shutdownAt? = w.shutdownAt?.or (some w.rig.now) := rfl
      refine ⟨?_, fun s hs => ?_, w.isKilled_turn _, h.of_exit, h.of_status⟩
      · rw [hat]
        cases w.shutdownAt? <;> rfl
      · rw [hat] at hs
        rcases Option.or_eq_some_iff.mp hs with hold | ⟨-, hnew⟩
        · exact h.shutdown_le s hold
        · cases hnew
          exact Nat.le_refl _
    | elapse duration => exact h.keep rfl id rfl rfl rfl
    | dropNotices => exact h.keep rfl id rfl rfl rfl
  | perish =>
    cases hkilled : w.rig.isKilled with
    | false => exact hsame (by simp [WatcherRig.turn, hkilled]) rfl rfl
    | true =>
      cases hstatus : w.rig.child.status? with
      | none =>
        have hrunning := Watcher.running_of_status hstatus
        refine h.ends (.signalled 9) hrunning ?_ rfl (.inr ⟨rfl, hkilled, rfl⟩)
        simp [WatcherRig.turn, hkilled, hrunning, Child.finish]
      | some status =>
        exact hsame (by simp [WatcherRig.turn, finish_of_status hstatus]) rfl rfl
  | watcher prefersShutdown =>
    cases hstep : w.rig.watcher.step w.rig.isShutdown prefersShutdown w.rig.now w.rig.child with
    | none => exact hsame (turn_of_wait hstep) rfl rfl
    | some m =>
      have hturn := turn_of_step hstep
      rw [witness_eq] at hturn
      refine h.keep ?_ ?_ ?_ rfl rfl
      · rw [hturn]
      · rw [hturn]
        exact fun hkilled => by simp [hkilled]
      · rw [hturn]
        exact Watcher.status_of_step hstep

/-! ### What a turn keeps -/

/-- What has once been overdue stays so. -/
lemma Overdue.turn {s : Nat} (h : Overdue grace turns w s) (t : Turn) :
    Overdue grace (turns ++ [t]) (w.turn t) s where
  shutdown := by simp [Watch.turn, h.shutdown]
  le_now := h.le_now.trans (w.rig.now_le_turn t)
  le_exit := fun e status hexit => by
    simp only [Watch.turn] at hexit
    split at hexit
    · split at hexit
      · cases hexit
        exact h.le_now
      · exact h.le_exit e status hexit
    · exact h.le_exit e status hexit
  moment := by
    obtain ⟨before, after, hturns, hmoment⟩ := h.moment
    exact ⟨before, after ++ [t], by rw [hturns, List.append_assoc], hmoment⟩

/-- A shutdown that has been written down stays so. -/
lemma shutdownAt_turn {s : Nat} (h : w.shutdownAt? = some s) (t : Turn) :
    (w.turn t).shutdownAt? = some s := by
  simp [Watch.turn, h]

/-- An engine has been killed before a turn, or it is killed in the turn. -/
lemma Recorded.killedAt_cases (h : Recorded w) {t : Turn} {k : Nat} (hk : (w.turn t).killedAt? = some k) :
    w.killedAt? = some k ∨
      k = w.rig.now ∧ w.rig.isKilled = false ∧ (w.rig.turn t).isKilled = true := by
  have hkilled := h.isKilled_eq
  simp only [Watch.turn] at hk
  split at hk
  · next hafter =>
    rcases Option.or_eq_some_iff.mp hk with hold | ⟨hnone, hnew⟩
    · exact .inl hold
    · cases hnew
      rw [hnone] at hkilled
      exact .inr ⟨rfl, hkilled, hafter⟩
  · cases hk

/-- A turn in which the watcher takes no step keeps the invariant. -/
lemma Orderly.around (h : Orderly grace turns w) (hrecorded : Recorded w) {t : Turn}
    (ht : ∀ prefersShutdown, t = .watcher prefersShutdown → w.rig.step prefersShutdown = none) :
    Orderly grace (turns ++ [t]) (w.turn t) := by
  obtain ⟨hwatcher, hkilled, hnotices, hposted, hlistens, hkept⟩ := w.rig.turn_of_other ht
  have hposts : (w.turn t).posts = w.posts := by simp [Watch.turn, hposted]
  have hrig : (w.turn t).rig = w.rig.turn t := rfl
  refine
    { grace_eq := ?_
      of_graced := fun deadline hphase => ?_
      of_killing := fun hphase => ?_
      of_mourning := fun hphase => ?_
      of_killed := fun k hk => ?_
      of_posting := fun failure? hphase => ?_
      of_unspent := fun hspent => ?_
      of_spent := fun hspent => ?_
      noticed := fun hlistening => ?_ }
  · rw [hrig, hwatcher, h.grace_eq]
  · obtain ⟨s, hs, hle, hnow⟩ := h.of_graced deadline (by rwa [hrig, hwatcher] at hphase)
    exact ⟨s, shutdownAt_turn hs t, hle, hnow.trans (Nat.add_le_add_right (w.rig.now_le_turn t) _)⟩
  · obtain ⟨s, hs⟩ := h.of_killing (by rwa [hrig, hwatcher] at hphase)
    exact ⟨s, hs.turn t⟩
  · rw [hrig, hkilled]
    exact h.of_mourning (by rwa [hrig, hwatcher] at hphase)
  · rcases hrecorded.killedAt_cases hk with hold | ⟨-, hspared, hnow⟩
    · obtain ⟨s, hs, hle⟩ := h.of_killed k hold
      exact ⟨s, hs.turn t, hle⟩
    · rw [hkilled, hspared] at hnow
      cases hnow
  · obtain ⟨status, hreaped, hfailure⟩ := h.of_posting failure? (by rwa [hrig, hwatcher] at hphase)
    exact ⟨status, hkept status hreaped, hfailure⟩
  · rw [hposts]
    exact h.of_unspent (by rwa [hrig, hwatcher] at hspent)
  · obtain ⟨status, hreaped, hall⟩ := h.of_spent (by rwa [hrig, hwatcher] at hspent)
    exact ⟨status, hkept status hreaped, hposts.trans hall⟩
  · rw [hposts, hrig, hnotices]
    exact h.noticed (hlistens hlistening)

/-- A step of the watcher keeps the invariant if it does what one of the kinds of steps does. -/
lemma Orderly.move (h : Orderly grace turns w) (hrecorded : Recorded w) {prefersShutdown : Bool}
    {m : Watcher.Move}
    (hstep : w.rig.watcher.step w.rig.isShutdown prefersShutdown w.rig.now w.rig.child = some m)
    (hgrace : m.watcher.grace = w.rig.watcher.grace)
    (hgraced : ∀ deadline, m.watcher.phase = .graced deadline →
      deadline = w.rig.now + grace ∧ ∃ s, w.shutdownAt? = some s ∧ s ≤ w.rig.now)
    (hkilling : m.watcher.phase = .killing → ∃ s, Overdue grace turns w s)
    (hmourning : m.watcher.phase = .mourning → m.act = .kill)
    (hkill : m.act = .kill → ∃ s, Overdue grace turns w s)
    (hposting : ∀ failure?, m.watcher.phase = .posting failure? →
      ∃ status, m.child = .reaped status ∧ failure? = exitFailure? (.ok status))
    (hunspent : m.watcher.isSpent = false → w.posts ++ m.act.posts = [])
    (hspent : m.watcher.isSpent = true →
      ∃ status, m.child = .reaped status ∧ w.posts ++ m.act.posts = [exitFailure? (.ok status)]) :
    Orderly grace (turns ++ [.watcher prefersShutdown]) (w.turn (.watcher prefersShutdown)) := by
  have hturn := turn_of_step hstep
  rw [witness_eq] at hturn
  have hrig : (w.turn (.watcher prefersShutdown)).rig = _ := hturn
  have hposts : (w.turn (.watcher prefersShutdown)).posts = w.posts ++ m.act.posts := by
    simp [Watch.turn, posted, hstep]
  refine
    { grace_eq := ?_
      of_graced := fun deadline hphase => ?_
      of_killing := fun hphase => ?_
      of_mourning := fun hphase => ?_
      of_killed := fun k hk => ?_
      of_posting := fun failure? hphase => ?_
      of_unspent := fun hs => ?_
      of_spent := fun hs => ?_
      noticed := fun hlistening => ?_ }
  · rw [hrig]
    exact hgrace.trans h.grace_eq
  · rw [hrig] at hphase ⊢
    obtain ⟨rfl, s, hs, hle⟩ := hgraced deadline hphase
    exact ⟨s, shutdownAt_turn hs _, Nat.add_le_add_right hle _, Nat.le_refl _⟩
  · rw [hrig] at hphase
    obtain ⟨s, hs⟩ := hkilling hphase
    exact ⟨s, hs.turn _⟩
  · rw [hrig] at hphase ⊢
    simp [hmourning hphase]
  · rcases hrecorded.killedAt_cases hk with hold | ⟨rfl, hspared, hnow⟩
    · obtain ⟨s, hs, hle⟩ := h.of_killed k hold
      exact ⟨s, hs.turn _, hle⟩
    · rw [hturn, hspared] at hnow
      obtain ⟨s, hs⟩ := hkill (by simpa using hnow)
      exact ⟨s, hs.turn _, hs.le_now⟩
  · rw [hrig] at hphase ⊢
    exact hposting failure? hphase
  · rw [hrig] at hs
    rw [hposts]
    exact hunspent hs
  · rw [hrig] at hs ⊢
    rw [hposts]
    exact hspent hs
  · rw [hrig] at hlistening ⊢
    have hall := h.noticed hlistening
    rw [if_pos hlistening, List.reverse_append, hall, hposts, List.map_append, List.append_cancel_left_eq]
    cases m.act <;> rfl

/-- A step of the watcher keeps the invariant. -/
lemma Orderly.step (h : Orderly grace turns w) (hrecorded : Recorded w)
    (hw : w = (start grace).course turns) {prefersShutdown : Bool} {m : Watcher.Move}
    (hstep : w.rig.watcher.step w.rig.isShutdown prefersShutdown w.rig.now w.rig.child = some m) :
    Orderly grace (turns ++ [.watcher prefersShutdown]) (w.turn (.watcher prefersShutdown)) := by
  cases Watcher.motion_of_step hstep with
  | yield hphase hshut hm =>
    have hat : w.shutdownAt?.isSome = true := hrecorded.isShutdown_eq ▸ hshut
    obtain ⟨s, hs⟩ := Option.isSome_iff_exists.mp hat
    have hposts := h.of_unspent (by simp [Watcher.isSpent, hphase])
    subst hm
    refine h.move hrecorded hstep rfl (fun deadline hgraced => ?_) ?_ ?_ ?_ ?_ (fun _ => ?_) ?_
    · rw [← h.grace_eq]
      exact ⟨(Watcher.Phase.graced.inj hgraced).symm, s, hs, hrecorded.shutdown_le s hs⟩
    all_goals simp [Watcher.yield, Watcher.Act.posts, Watcher.isSpent, hposts]
  | collect status hstatus hphase hm =>
    have hposts : w.posts = [] := by
      refine h.of_unspent ?_
      rcases hphase with hphase | ⟨_, hphase⟩ | hphase <;> simp [Watcher.isSpent, hphase]
    subst hm
    have hposting : ∀ failure?, (w.rig.watcher.collect w.rig.child status).watcher.phase =
        .posting failure? → failure? = exitFailure? (.ok status) :=
      fun failure? hposting => (Watcher.Phase.posting.inj hposting).symm
    refine h.move hrecorded hstep rfl ?_ ?_ ?_ ?_
      (fun failure? hp => ⟨status, Watcher.reap_eq hstatus, hposting failure? hp⟩) ?_ ?_
    all_goals simp [Watcher.collect, Watcher.Act.posts, Watcher.isSpent, hposts]
  | giveUp deadline hphase hrunning hlate hm =>
    obtain ⟨s, hs, hle, -⟩ := h.of_graced deadline hphase
    have hposts := h.of_unspent (by simp [Watcher.isSpent, hphase])
    have hoverdue : Overdue grace turns w s :=
      { shutdown := hs
        le_now := hle.trans hlate
        le_exit := fun e status hexit => by
          have hstatus := hrecorded.of_exit e status hexit
          rw [hrunning] at hstatus
          cases hstatus
        moment := ⟨turns, [], by simp, by rw [← hw]; exact ⟨hs, hle.trans hlate, hrunning⟩⟩ }
    subst hm
    refine h.move hrecorded hstep rfl ?_ (fun _ => ⟨s, hoverdue⟩) ?_ ?_ ?_ ?_ ?_
    all_goals simp [Watcher.Act.posts, Watcher.isSpent, hposts]
  | kill hphase hm =>
    have hposts := h.of_unspent (by simp [Watcher.isSpent, hphase])
    subst hm
    refine h.move hrecorded hstep rfl ?_ ?_ ?_ (fun _ => h.of_killing hphase) ?_ ?_ ?_
    all_goals simp [Watcher.Act.posts, Watcher.isSpent, hposts]
  | post failure? hphase hm =>
    have hposts := h.of_unspent (by simp [Watcher.isSpent, hphase])
    obtain ⟨status, hreaped, hfailure⟩ := h.of_posting failure? hphase
    subst hm
    refine h.move hrecorded hstep rfl ?_ ?_ ?_ ?_ ?_ ?_ (fun _ => ⟨status, hreaped, ?_⟩)
    all_goals simp [Watcher.Act.posts, Watcher.isSpent, hposts, hfailure]
  | release hold hphase hm =>
    obtain ⟨status, hreaped, hposts⟩ := h.of_spent (by simp [Watcher.isSpent, hphase])
    subst hm
    refine h.move hrecorded hstep rfl ?_ ?_ ?_ ?_ ?_ ?_ (fun _ => ⟨status, hreaped, ?_⟩)
    all_goals cases hold <;>
      simp [Watcher.Act.posts, Watcher.isSpent, Watcher.Hold.next, hposts]

/-- The invariant holds after every course, and what is written down then is true. -/
theorem orderly_course (grace : Nat) (turns : List Turn) :
    Orderly grace turns ((start grace).course turns) ∧ Recorded ((start grace).course turns) := by
  induction turns using List.reverseRecOn with
  | nil => exact ⟨orderly_start grace, recorded_start grace⟩
  | append_singleton turns t ih =>
    obtain ⟨horderly, hrecorded⟩ := ih
    have hcourse : (start grace).course (turns ++ [t]) = ((start grace).course turns).turn t := by
      rw [course, List.foldl_append]
      rfl
    rw [hcourse]
    refine ⟨?_, hrecorded.turn t⟩
    generalize hw : (start grace).course turns = w at horderly hrecorded
    cases t with
    | event e => exact horderly.around hrecorded (by simp)
    | perish => exact horderly.around hrecorded (by simp)
    | watcher prefersShutdown =>
      cases hstep : w.rig.watcher.step w.rig.isShutdown prefersShutdown w.rig.now w.rig.child with
      | none => exact horderly.around hrecorded (by simp [step, hstep])
      | some m => exact horderly.step hrecorded hw.symm hstep

end Watch
end WatcherRig
end Traversal
