import Mathlib
import Traversal.Session.Controller

/-!
# What a step of the controller can do

`Controller.Finding` lists what can become of a controller in a step: it looks on, it puts a notice
aside, it finds a path, it gives up, or it winds the session up.  `GivesUp` lists the reasons to give up.
`finding_of_step` says that there is nothing else.

`Controller.Learns` lists what a controller can know after a step that it did not know before: that there
will be no path, that there will be no more notices, or that the engine has failed.  The last of these is
held back (`HoldsBack`).
-/

namespace Traversal.Controller

/-- Whether a controller still waits for the outcome. -/
def isLooking (c : Controller) : Bool :=
  match c.phase with
  | .polling _ => true
  | .parked => true
  | _ => false

/-- The outcome that a controller has decided on. -/
def decision? (c : Controller) : Option Outcome :=
  match c.phase with
  | .stopping outcome => some outcome
  | .leaving outcome => some outcome
  | .joining outcome => some outcome
  | .clearing outcome => some outcome
  | .returned outcome => some outcome
  | _ => none

/-- Whether a controller has waited for the tasks. -/
def hasJoined (c : Controller) : Bool :=
  match c.phase with
  | .clearing _ => true
  | .returned _ => true
  | _ => false

/-- A controller that still waits has not decided. -/
lemma decision_eq_none {c : Controller} (h : c.isLooking = true) : c.decision? = none := by
  unfold isLooking at h
  unfold decision?
  split at h <;> simp_all

/-- A controller that has not decided has not waited for the tasks. -/
lemma hasJoined_eq_false {c : Controller} (h : c.decision? = none) : c.hasJoined = false := by
  unfold decision? at h
  unfold hasJoined
  split at h <;> simp_all

/-- The notices that are left after a step that shows this to others. -/
def Act.remaining : Act → List Notice → List Notice
  | take, notices => notices.tail
  | leave, _ => []
  | _, notices => notices

/-- No step of a controller adds a notice. -/
lemma Act.remaining_sublist (act : Act) (notices : List Notice) :
    (act.remaining notices).Sublist notices := by
  cases act with
  | inner | stop | clear => exact List.Sublist.refl notices
  | take => exact List.tail_sublist notices
  | leave => exact List.nil_sublist notices

/-- Why a controller gives up with a failure, and what others see of that. -/
inductive GivesUp (v : View) (c : Controller) : Failure → Act → Prop
  /-- The router is gone without a result, and a failure has been held back. -/
  | closed {failure : Failure} {deadline : Nat} (hphase : c.phase = .polling .result)
      (hslot : v.slot = .closed) (hheld : c.held = some (failure, deadline)) :
      GivesUp v c failure .inner
  /-- There is nothing more to read, and a failure has been held back. -/
  | ended {failure : Failure} {deadline : Nat} {rest : List Notice} (hphase : c.phase = .polling .notices)
      (hnotices : v.notices = ⟨.router, none⟩ :: rest) (hheld : c.held = some (failure, deadline)) :
      GivesUp v c failure .take
  /-- Something else has failed, and a failure has been held back. -/
  | second {failure other : Failure} {deadline : Nat} {activity : Activity} {rest : List Notice}
      (hphase : c.phase = .polling .notices) (hnotices : v.notices = ⟨activity, some other⟩ :: rest)
      (hheld : c.held = some (failure, deadline)) : GivesUp v c failure .take
  /-- Something has failed that is not held back. -/
  | first {failure : Failure} {activity : Activity} {rest : List Notice}
      (hphase : c.phase = .polling .notices) (hnotices : v.notices = ⟨activity, some failure⟩ :: rest)
      (hheld : c.held = none) (hactivity : activity ≠ .processWait ∨ c.isResultOpen = false) :
      GivesUp v c failure .take
  /-- There will be no more notices, and a failure has been held back. -/
  | drained {failure : Failure} {deadline : Nat} (hphase : c.phase = .polling .notices)
      (hopen : c.isNoticesOpen = true) (hnotices : v.notices = []) (hsenders : v.hasSenders = false)
      (hheld : c.held = some (failure, deadline)) : GivesUp v c failure .inner
  /-- A failure has been held back long enough. -/
  | expired {failure : Failure} {deadline : Nat} (hphase : c.phase = .polling .drain)
      (hheld : c.held = some (failure, deadline)) (hdeadline : deadline ≤ v.now) :
      GivesUp v c failure .inner
  | cancelled (hphase : c.phase = .polling .cancel) (hcancelled : v.isCancelled = true) :
      GivesUp v c .cancelled .inner

/-- A controller that gives up has been waiting. -/
lemma GivesUp.isLooking {v : View} {c : Controller} {failure : Failure} {act : Act}
    (h : GivesUp v c failure act) : c.isLooking = true := by
  cases h <;> simp [Controller.isLooking, *]

/-- What becomes of a controller in a step. -/
inductive Finding (v : View) (c : Controller) (m : Move) : Prop
  /-- It looks on. -/
  | look (hbefore : c.isLooking = true) (hafter : m.controller.isLooking = true) (hact : m.act = .inner)
      (hheld : m.controller.held = c.held)
      (hopen : m.controller.isResultOpen = c.isResultOpen ∨ v.slot = .closed)
      (hconnect : ∀ t, v.slot = .full t → c.isResultOpen = true → c.phase ≠ .polling .result)
  /-- It puts the first notice aside. -/
  | hear (notice : Notice) (rest : List Notice) (hphase : c.phase = .polling .notices)
      (hnotices : v.notices = notice :: rest) (hafter : m.controller.phase = .polling .result)
      (hact : m.act = .take)
      (hheld : m.controller.held = c.held ∨ c.held = none ∧ notice.activity = .processWait ∧
        ∃ failure, notice.failure? = some failure ∧
          m.controller.held = some (failure, v.now + c.grace))
      (hopen : m.controller.isResultOpen = c.isResultOpen)
  /-- It finds the path. -/
  | connect (t : FiveTuple) (hphase : c.phase = .polling .result) (hslot : v.slot = .full t)
      (hm : m = { controller := c.decide (.connected t) })
  /-- It gives up. -/
  | giveUp (failure : Failure) (act : Act) (hreason : GivesUp v c failure act)
      (hm : m = { controller := c.decide (.failed failure), act := act })
  /-- It winds up. -/
  | windUp (outcome : Outcome) (hbefore : c.decision? = some outcome)
      (hafter : m.controller.decision? = some outcome) (hact : m.act ≠ .take)
      (hheld : m.controller.held = c.held) (hopen : m.controller.isResultOpen = c.isResultOpen)
      (hjoined : m.controller.hasJoined = true → c.hasJoined = true ∨ v.areTasksDone = true)

variable {v : View} {c : Controller}

/-- Looking at the result slot. -/
lemma finding_of_pollResult (hphase : c.phase = .polling .result) : Finding v c (c.pollResult v) := by
  unfold pollResult
  by_cases hopen : c.isResultOpen = true
  · rw [if_pos hopen]
    cases hslot : v.slot with
    | full t => exact .connect t hphase hslot rfl
    | closed =>
      cases hheld : c.held with
      | none =>
        simp only [exhaust, hheld]
        exact .look (by simp [isLooking, hphase]) rfl rfl hheld.symm (.inr hslot) (by simp [hslot])
      | some held =>
        obtain ⟨failure, deadline⟩ := held
        simp only [exhaust, hheld]
        exact .giveUp failure .inner (.closed hphase hslot hheld) rfl
    | vacant =>
      exact .look (by simp [isLooking, hphase]) rfl rfl rfl (.inl rfl) (by simp [hslot])
    | abandoned =>
      exact .look (by simp [isLooking, hphase]) rfl rfl rfl (.inl rfl) (by simp [hslot])
  · rw [if_neg hopen]
    exact .look (by simp [isLooking, hphase]) rfl rfl rfl (.inl rfl) (fun _ _ h => absurd h hopen)

/-- Dealing with a notice. -/
lemma finding_of_hear {notice : Notice} {rest : List Notice} (hphase : c.phase = .polling .notices)
    (hnotices : v.notices = notice :: rest) :
    Finding v c { controller := c.hear v notice, act := .take } := by
  obtain ⟨activity, failure?⟩ := notice
  unfold hear
  cases failure? with
  | none =>
    by_cases hrouter : activity = .router
    · subst hrouter
      cases hheld : c.held with
      | none =>
        simp only [exhaust, hheld, if_true]
        exact .hear _ rest hphase hnotices rfl rfl (.inl rfl) rfl
      | some held =>
        obtain ⟨failure, deadline⟩ := held
        simp only [exhaust, hheld, if_true]
        exact .giveUp failure .take (.ended hphase hnotices hheld) rfl
    · simp only [if_neg hrouter]
      exact .hear _ rest hphase hnotices rfl rfl (.inl rfl) rfl
  | some failure =>
    cases hheld : c.held with
    | some held =>
      obtain ⟨first, deadline⟩ := held
      exact .giveUp first .take (.second hphase hnotices hheld) rfl
    | none =>
      by_cases hwait : activity = .processWait ∧ c.isResultOpen = true
      · simp only [hwait, decide_true, Bool.and_self, if_true]
        exact .hear _ rest hphase hnotices rfl rfl
          (.inr ⟨hheld, hwait.1, failure, rfl, rfl⟩) hwait.2.symm
      · have hreason : activity ≠ .processWait ∨ c.isResultOpen = false := by
          by_cases hactivity : activity = .processWait
          · exact .inr (by simpa [hactivity] using hwait)
          · exact .inl hactivity
        simp only [Bool.and_eq_true, decide_eq_true_eq, hwait, if_false]
        exact .giveUp failure .take (.first hphase hnotices hheld hreason) rfl

/-- Looking at the notices. -/
lemma finding_of_pollNotices (hphase : c.phase = .polling .notices) :
    Finding v c (c.pollNotices v) := by
  have hlooking : c.isLooking = true := by simp [isLooking, hphase]
  have hconnect : ∀ t, v.slot = .full t → c.isResultOpen = true → c.phase ≠ .polling .result := by
    simp [hphase]
  unfold pollNotices
  by_cases hopen : c.isNoticesOpen = true
  · rw [if_pos hopen]
    cases hnotices : v.notices with
    | cons notice rest => exact finding_of_hear hphase hnotices
    | nil =>
      cases hsenders : v.hasSenders with
      | true => exact .look hlooking rfl rfl rfl (.inl rfl) hconnect
      | false =>
        cases hheld : c.held with
        | none =>
          simp only [exhaust, hheld, Bool.false_eq_true, if_false]
          exact .look hlooking rfl rfl hheld.symm (.inl rfl) hconnect
        | some held =>
          obtain ⟨failure, deadline⟩ := held
          simp only [exhaust, hheld, Bool.false_eq_true, if_false]
          exact .giveUp failure .inner (.drained hphase hopen hnotices hsenders hheld) rfl
  · rw [if_neg hopen]
    exact .look hlooking rfl rfl rfl (.inl rfl) hconnect

/-- Looking at the timer. -/
lemma finding_of_pollDrain (hphase : c.phase = .polling .drain) : Finding v c (c.pollDrain v) := by
  have hlooking : c.isLooking = true := by simp [isLooking, hphase]
  have hconnect : ∀ t, v.slot = .full t → c.isResultOpen = true → c.phase ≠ .polling .result := by
    simp [hphase]
  unfold pollDrain
  cases hheld : c.held with
  | none => exact .look hlooking rfl rfl rfl (.inl rfl) hconnect
  | some held =>
    obtain ⟨failure, deadline⟩ := held
    simp only
    split
    · next hdeadline => exact .giveUp failure .inner (.expired hphase hheld hdeadline) rfl
    · exact .look hlooking rfl rfl rfl (.inl rfl) hconnect

/-- Looking at the caller's wish to cancel. -/
lemma finding_of_pollCancel (hphase : c.phase = .polling .cancel) : Finding v c (c.pollCancel v) := by
  unfold pollCancel
  split
  · next hcancelled => exact .giveUp .cancelled .inner (.cancelled hphase hcancelled) rfl
  · exact .look (by simp [isLooking, hphase]) rfl rfl rfl (.inl rfl) (by simp [hphase])

/-- Every step of a controller is of one of the kinds. -/
theorem finding_of_step {m : Move} (h : c.step v = some m) : Finding v c m := by
  unfold step at h
  cases hphase : c.phase with
  | polling branch =>
    simp only [hphase, Option.some.injEq] at h
    subst h
    cases branch with
    | result => exact finding_of_pollResult hphase
    | notices => exact finding_of_pollNotices hphase
    | drain => exact finding_of_pollDrain hphase
    | cancel => exact finding_of_pollCancel hphase
  | parked =>
    simp only [hphase] at h
    split at h <;> cases h
    exact .look (by simp [isLooking, hphase]) rfl rfl rfl (.inl rfl) (by simp [hphase])
  | stopping outcome =>
    simp only [hphase, Option.some.injEq] at h
    subst h
    exact .windUp outcome (by simp [decision?, hphase]) rfl (by simp) rfl rfl
      (by simp [hasJoined])
  | leaving outcome =>
    simp only [hphase, Option.some.injEq] at h
    subst h
    exact .windUp outcome (by simp [decision?, hphase]) rfl (by simp) rfl rfl
      (by simp [hasJoined])
  | joining outcome =>
    simp only [hphase] at h
    split at h
    · next hdone =>
      cases h
      exact .windUp outcome (by simp [decision?, hphase]) rfl (by simp) rfl rfl
        (fun _ => .inr hdone)
    · cases h
  | clearing outcome =>
    simp only [hphase, Option.some.injEq] at h
    subst h
    exact .windUp outcome (by simp [decision?, hphase]) rfl (by simp) rfl rfl
      (fun _ => .inl (by simp [hasJoined, hphase]))
  | returned outcome => simp [hphase] at h
  | abandoned => simp [hphase] at h

/-- A controller that waits after a step has waited before it, and has at most taken a notice. -/
lemma looking_of_step {m : Move} (h : c.step v = some m) (hafter : m.controller.isLooking = true) :
    c.isLooking = true ∧ (m.act = .inner ∨ m.act = .take) := by
  cases finding_of_step h with
  | look hbefore hlooking hact hheld hopen hconnect => exact ⟨hbefore, .inl hact⟩
  | hear notice rest hphase hnotices hlooking hact hheld hopen =>
    exact ⟨by simp [isLooking, hphase], .inr hact⟩
  | connect t hphase hslot hm => simp [hm, isLooking, decide] at hafter
  | giveUp failure act hreason hm => simp [hm, isLooking, decide] at hafter
  | windUp outcome hbefore hdecided hact hheld hopen hjoined =>
    rw [decision_eq_none hafter] at hdecided
    cases hdecided

/-- A controller that is to fail after a step has been to fail before it, or gives up in it. -/
lemma givesUp_of_step {m : Move} {failure : Failure} (h : c.step v = some m)
    (hdecided : m.controller.decision? = some (.failed failure)) :
    c.decision? = some (.failed failure) ∨ GivesUp v c failure m.act := by
  cases finding_of_step h with
  | look hbefore hafter hact hheld hopen hconnect =>
    rw [decision_eq_none hafter] at hdecided
    cases hdecided
  | hear notice rest hphase hnotices hafter hact hheld hopen =>
    simp [decision?, hafter] at hdecided
  | connect t hphase hslot hm => simp [hm, decide, decision?] at hdecided
  | giveUp given act hreason hm =>
    obtain rfl : given = failure := by simpa [hm, decide, decision?] using hdecided
    subst hm
    exact .inr hreason
  | windUp outcome hbefore hafter hact hheld hopen hjoined =>
    exact .inl (hbefore.trans (hafter.symm.trans hdecided))

/-! ### What a controller learns -/

/-- What a controller knows after a step that it did not know before. -/
inductive Learns (v : View) (c : Controller) (m : Move) : Prop
  /-- Nothing.  If it has taken a notice and still waits, the notice was benign. -/
  | nothing (hm : m.controller = { c with phase := m.controller.phase })
      (hact : m.act = .take → m.controller.isLooking = true →
        ∃ notice rest, v.notices = notice :: rest ∧ notice.failure? = none)
  /-- The router is gone without a result. -/
  | closed (hslot : v.slot = .closed) (hheld : c.held = none)
      (hm : m = { controller := { c with isResultOpen := false }.restart })
  /-- There will be no more notices. -/
  | drained (hnotices : v.notices = []) (hsenders : v.hasSenders = false) (hheld : c.held = none)
      (hm : m = { controller := { c with isNoticesOpen := false }.restart })
  /-- The engine has failed, and its output may still be read for some time. -/
  | failed (failure : Failure) (rest : List Notice) (hopen : c.isResultOpen = true)
      (hnotices : v.notices = ⟨.processWait, some failure⟩ :: rest) (hheld : c.held = none)
      (hm : m =
        { controller := { c with held := some (failure, v.now + c.grace) }.restart, act := .take })

/-- What a controller learns from a notice. -/
lemma learns_of_hear {notice : Notice} {rest : List Notice} (hnotices : v.notices = notice :: rest) :
    Learns v c { controller := c.hear v notice, act := .take } := by
  obtain ⟨activity, failure?⟩ := notice
  cases failure? with
  | none =>
    refine .nothing ?_ fun _ _ => ⟨_, rest, hnotices, rfl⟩
    cases hheld : c.held <;> by_cases hrouter : activity = .router <;>
      simp [hear, exhaust, decide, restart, hheld, hrouter]
  | some failure =>
    cases hheld : c.held with
    | some held =>
      exact .nothing (by simp [hear, hheld, decide]) (by simp [hear, hheld, decide, isLooking])
    | none =>
      by_cases hwait : activity = .processWait ∧ c.isResultOpen = true
      · obtain ⟨rfl, hopen⟩ := hwait
        exact .failed failure rest hopen hnotices hheld (by simp [hear, hheld, hopen])
      · have hgiveUp : c.hear v ⟨activity, some failure⟩ = c.decide (.failed failure) := by
          simp only [hear, hheld, Bool.and_eq_true, decide_eq_true_eq, hwait, if_false]
        exact .nothing (by simp [hgiveUp, decide]) (by simp [hgiveUp, decide, isLooking])

/-- What a controller learns from the sources. -/
lemma learns_of_poll (branch : Branch) : Learns v c (c.poll v branch) := by
  have hquiet : ∀ m : Move, m.controller = { c with phase := m.controller.phase } → m.act = .inner →
      Learns v c m := fun m hm hact => .nothing hm fun htake => by simp [hact] at htake
  cases branch with
  | result =>
    change Learns v c (c.pollResult v)
    unfold pollResult
    split
    · split
      · exact hquiet _ rfl rfl
      · next hslot =>
        cases hheld : c.held with
        | none => exact .closed hslot hheld (by simp [exhaust, hheld])
        | some held => exact hquiet _ (by simp [exhaust, hheld, decide]) rfl
      · exact hquiet _ rfl rfl
    · exact hquiet _ rfl rfl
  | notices =>
    change Learns v c (c.pollNotices v)
    unfold pollNotices
    split
    · split
      · next hnotices => exact learns_of_hear hnotices
      · next hnotices =>
        split
        · exact hquiet _ rfl rfl
        · next hsenders =>
          cases hheld : c.held with
          | none => exact .drained hnotices (by simpa using hsenders) hheld (by simp [exhaust, hheld])
          | some held => exact hquiet _ (by simp [exhaust, hheld, decide]) rfl
    · exact hquiet _ rfl rfl
  | drain =>
    change Learns v c (c.pollDrain v)
    unfold pollDrain
    split
    · split <;> exact hquiet _ rfl rfl
    · exact hquiet _ rfl rfl
  | cancel =>
    change Learns v c (c.pollCancel v)
    unfold pollCancel
    split <;> exact hquiet _ rfl rfl

/-- What a controller learns in a step. -/
theorem learns_of_step {m : Move} (h : c.step v = some m) : Learns v c m := by
  unfold step at h
  split at h
  · cases h
    exact learns_of_poll _
  · split at h <;> cases h
    exact .nothing rfl (by simp)
  · cases h
    exact .nothing rfl (by simp)
  · cases h
    exact .nothing rfl (by simp)
  · split at h <;> cases h
    exact .nothing rfl (by simp)
  · cases h
    exact .nothing rfl (by simp)
  · cases h
  · cases h

/-- The time that a failure may be held back does not change. -/
lemma grace_of_step {m : Move} (h : c.step v = some m) : m.controller.grace = c.grace := by
  cases learns_of_step h with
  | nothing hm hact => rw [hm]
  | closed hslot hheld hm | drained hnotices hsenders hheld hm => rw [hm]; rfl
  | failed failure rest hopen hnotices hheld hm => rw [hm]; rfl

/-- The controller holds a failure back until a time, at which it wakes up and gives up with the failure,
whatever else there is to wait for. -/
def HoldsBack (c : Controller) (failure : Failure) (deadline : Nat) : Prop :=
  c.held = some (failure, deadline) ∧
    ∀ v : View, deadline ≤ v.now →
      c.isWoken v = true ∧ c.poll v .drain = { controller := c.decide (.failed failure) }

/-- What a controller holds back, it holds back until the time that it has noted. -/
lemma holdsBack_of_held {failure : Failure} {deadline : Nat} (h : c.held = some (failure, deadline)) :
    c.HoldsBack failure deadline :=
  ⟨h, fun v hpassed => by simp [isWoken, poll, pollDrain, h, hpassed]⟩

/-- A controller that has decided stays with its decision. -/
lemma decision_of_step {outcome : Outcome} {m : Move} (h : c.step v = some m)
    (hdecided : c.decision? = some outcome) : m.controller.decision? = some outcome := by
  cases finding_of_step h with
  | look hbefore hafter hact hheld hopen hconnect =>
    rw [decision_eq_none hbefore] at hdecided
    cases hdecided
  | hear notice rest hphase hnotices hafter hact hheld hopen =>
    simp [decision?, hphase] at hdecided
  | connect t hphase hslot hm => simp [decision?, hphase] at hdecided
  | giveUp failure act hreason hm =>
    rw [decision_eq_none hreason.isLooking] at hdecided
    cases hdecided
  | windUp o hbefore hafter hact hheld hopen hjoined =>
    rw [hafter, ← hbefore, hdecided]

end Traversal.Controller
