import Mathlib
import Traversal.Task.Watcher

/-!
# What a step of the watcher does

The steps of a watcher fall into a few kinds, which `Watcher.Motion` lists; `motion_of_step` says that
there are no others, and `stalls_of_step` what a watcher waits for that can take no step.
-/

namespace Traversal.Watcher

open Engine

variable {isShutdown prefersShutdown : Bool} {now : Nat} {w : Watcher} {c : Child} {m : Move}

/-- What a step of a watcher does. -/
inductive Motion (isShutdown : Bool) (now : Nat) (w : Watcher) (c : Child) (m : Move) : Prop
  /-- The watcher turns to the shutdown. -/
  | yield (hphase : w.phase = .watching) (hshut : isShutdown = true) (hm : m = w.yield now c)
  /-- The engine has ended, and the watcher collects its status. -/
  | collect (status : WaitStatus) (hstatus : c.status? = some status)
      (hphase : w.phase = .watching ∨ (∃ deadline, w.phase = .graced deadline) ∨ w.phase = .mourning)
      (hm : m = w.collect c status)
  /-- The engine has not ended in time. -/
  | giveUp (deadline : Nat) (hphase : w.phase = .graced deadline) (hrunning : c = .running)
      (hlate : deadline ≤ now) (hm : m = { watcher := { w with phase := .killing }, child := c })
  | kill (hphase : w.phase = .killing)
      (hm : m = { watcher := { w with phase := .mourning }, child := c, act := .kill })
  | post (failure? : Option Failure) (hphase : w.phase = .posting failure?)
      (hm : m =
        { watcher := { w with phase := .releasing .notices }, child := c, act := .post failure? })
  | release (hold : Hold) (hphase : w.phase = .releasing hold)
      (hm : m = { watcher := { w with phase := hold.next }, child := c, act := .release hold })

/-- An engine without a status runs. -/
lemma running_of_status (h : c.status? = none) : c = .running := by
  cases c with
  | running => rfl
  | ended status => cases h
  | reaped status => cases h

/-- Every step of a watcher is of one of the kinds. -/
theorem motion_of_step (h : w.step isShutdown prefersShutdown now c = some m) :
    Motion isShutdown now w c m := by
  unfold Watcher.step at h
  cases hphase : w.phase with
  | watching =>
    simp only [hphase] at h
    split at h
    · next status hstatus =>
      split at h
      · next hboth =>
        cases h
        exact .yield hphase (Bool.and_eq_true_iff.mp hboth).1 rfl
      · cases h
        exact .collect status hstatus (.inl hphase) rfl
    · split at h
      · next hshut =>
        cases h
        exact .yield hphase hshut rfl
      · cases h
  | graced deadline =>
    simp only [hphase] at h
    split at h
    · next status hstatus =>
      cases h
      exact .collect status hstatus (.inr (.inl ⟨deadline, hphase⟩)) rfl
    · next hnone =>
      split at h
      · next hlate =>
        cases h
        exact .giveUp deadline hphase (running_of_status hnone) hlate rfl
      · cases h
  | killing =>
    simp only [hphase, Option.some.injEq] at h
    exact .kill hphase h.symm
  | mourning =>
    simp only [hphase] at h
    obtain ⟨status, hstatus, hm⟩ := Option.map_eq_some_iff.mp h
    exact .collect status hstatus (.inr (.inr hphase)) hm.symm
  | posting failure? =>
    simp only [hphase, Option.some.injEq] at h
    exact .post failure? hphase h.symm
  | releasing hold =>
    simp only [hphase, Option.some.injEq] at h
    exact .release hold hphase h.symm
  | done => simp [hphase] at h

/-- A watcher that can take no step is done, or waits while the engine runs: for a shutdown, for time to
pass, or for the end of an engine that it has killed. -/
theorem stalls_of_step (h : w.step isShutdown prefersShutdown now c = none) :
    w.phase = .done ∨ c = .running ∧
      (w.phase = .watching ∧ isShutdown = false ∨
        (∃ deadline, w.phase = .graced deadline ∧ now < deadline) ∨ w.phase = .mourning) := by
  unfold Watcher.step at h
  cases hphase : w.phase with
  | watching =>
    simp only [hphase] at h
    split at h
    · split at h <;> cases h
    · next hnone =>
      split at h
      · cases h
      · next hshut => exact .inr ⟨running_of_status hnone, .inl ⟨rfl, by simpa using hshut⟩⟩
  | graced deadline =>
    simp only [hphase] at h
    split at h
    · cases h
    · next hnone =>
      split at h
      · cases h
      · next hearly =>
        exact .inr ⟨running_of_status hnone, .inr (.inl ⟨deadline, rfl, Nat.lt_of_not_le hearly⟩)⟩
  | killing => simp [hphase] at h
  | mourning =>
    simp only [hphase, Option.map_eq_none_iff] at h
    exact .inr ⟨running_of_status h, .inr (.inr rfl)⟩
  | posting failure? => simp [hphase] at h
  | releasing hold => simp [hphase] at h
  | done => exact .inl rfl

/-- Collecting the status of an engine that has ended keeps it. -/
lemma reap_eq {status : WaitStatus} (h : c.status? = some status) : c.reap = .reaped status := by
  cases c with
  | running => cases h
  | ended status' =>
    cases h
    rfl
  | reaped status' =>
    cases h
    rfl

/-- A watcher does nothing to the status of the engine but collect it. -/
lemma status_of_step (h : w.step isShutdown prefersShutdown now c = some m) :
    m.child.status? = c.status? := by
  cases motion_of_step h with
  | yield _ _ hm =>
    subst hm
    rfl
  | collect status hstatus _ hm =>
    subst hm
    simp [collect, reap_eq hstatus, Child.status?] at hstatus ⊢
    exact hstatus.symm
  | giveUp _ _ _ _ hm =>
    subst hm
    rfl
  | kill _ hm =>
    subst hm
    rfl
  | post _ _ hm =>
    subst hm
    rfl
  | release _ _ hm =>
    subst hm
    rfl

/-- An engine that has ended is not killed any more unless the watcher has given it up before. -/
lemma spared_of_step {status : WaitStatus} (h : w.step isShutdown prefersShutdown now c = some m)
    (hstatus : c.status? = some status) (hphase : w.phase ≠ .killing) :
    m.act ≠ .kill ∧ m.watcher.phase ≠ .killing := by
  cases motion_of_step h with
  | yield _ _ hm =>
    subst hm
    exact ⟨by simp [yield], by simp [yield]⟩
  | collect _ _ _ hm =>
    subst hm
    exact ⟨by simp [collect], by simp [collect]⟩
  | giveUp _ _ hrunning _ _ =>
    subst hrunning
    cases hstatus
  | kill hkilling _ => exact absurd hkilling hphase
  | post _ _ hm =>
    subst hm
    exact ⟨by simp, by simp⟩
  | release hold _ hm =>
    subst hm
    exact ⟨by simp, by cases hold <;> simp [Hold.next]⟩

/-- What a watcher prefers makes no difference to a step, unless the engine has ended while the watcher
watches. -/
lemma step_congr (h : w.phase ≠ .watching ∨ c.status? = none) (prefersShutdown' : Bool) :
    w.step isShutdown prefersShutdown now c = w.step isShutdown prefersShutdown' now c := by
  unfold Watcher.step
  cases hphase : w.phase with
  | watching => simp [h.resolve_left (not_not.mpr hphase)]
  | _ => rfl

end Traversal.Watcher
