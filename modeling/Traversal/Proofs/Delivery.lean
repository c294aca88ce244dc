import Mathlib
import Traversal.Proofs.SessionCourse

/-!
# What becomes of a delivered path

A path that has been put into the result slot while the controller still waits is the outcome of the
session, whatever the engine's end was, with one exception.  The controller looks at the slot and at the
notices in two steps.  If the router delivers the path and lets go of the notices in between, and nobody
else can send a notice any more, the controller finds the notices exhausted; if it holds a failure back
then, it gives up with that failure and does not look at the slot again.  `isOvertaken` is this situation,
and `outcome_of_full_slot` says that there is no other way to lose the path, but for a failure of the
relay, the caller's wish to cancel and the end of the time that the failure may be held back.
-/

namespace Traversal.Session

open Router Arrival

variable {s s' : Session}

/-! ### Held failures -/

/-- Whether a notice is about the end of the engine. -/
def isExit (n : Notice) : Bool :=
  n.activity = .processWait

/-- What the controller knows is in accordance with the slot and with what the watcher has reported. -/
structure Consistent (s : Session) : Prop where
  closed_of_not_open : s.controller.isResultOpen = false → s.slot = .closed
  /-- The end of the engine is reported once, and held back after it has been reported. -/
  exits_le : s.notices.countP isExit + s.controller.held.isSome.toNat ≤ s.watcher.isSpent.toNat

/-- The invariant holds at the start. -/
lemma consistent_create (name : String) (config : Config) : Consistent (create name config) where
  closed_of_not_open := by simp [create]
  exits_le := by simp [create]

/-- What the controller finds is in accordance with what it knows. -/
lemma Consistent.find (h : Consistent s) {m : Controller.Move}
    (hfinding : Controller.Finding s.view s.controller m) :
    (m.controller.isResultOpen = false → s.slot = .closed) ∧
      (m.act.remaining s.notices).countP isExit + m.controller.held.isSome.toNat ≤
        s.watcher.isSpent.toNat := by
  have hle := h.exits_le
  have hrest : (m.act.remaining s.notices).countP isExit ≤ s.notices.countP isExit :=
    (m.act.remaining_sublist s.notices).countP_le
  cases hfinding with
  | look hbefore hafter hact hheld hopen hconnect =>
    refine ⟨fun hclosed => ?_, by rw [hheld]; omega⟩
    rcases hopen with hsame | hslot
    · exact h.closed_of_not_open (hsame ▸ hclosed)
    · exact hslot
  | hear notice rest hphase hnotices hafter hact hheld hopen =>
    refine ⟨fun hclosed => h.closed_of_not_open (hopen ▸ hclosed), ?_⟩
    rcases hheld with hsame | ⟨hnone, hactivity, failure, hfailure, hset⟩
    · rw [hsame]
      omega
    · -- The failure moves from the notices to the controller.
      have hcount : s.notices.countP isExit = rest.countP isExit + 1 := by
        rw [show s.notices = _ from hnotices, List.countP_cons_of_pos (by simp [isExit, hactivity])]
      rw [hact, show s.notices = _ from hnotices, hset]
      simp only [Controller.Act.remaining, List.tail_cons, Option.isSome_some, Bool.toNat_true]
      omega
  | connect t hphase hslot hm =>
    subst hm
    exact ⟨h.closed_of_not_open, hle⟩
  | giveUp failure act hreason hm =>
    subst hm
    refine ⟨h.closed_of_not_open, ?_⟩
    simp only [Controller.decide] at hrest ⊢
    omega
  | windUp outcome hbefore hafter hact hheld hopen hjoined =>
    exact ⟨fun hclosed => h.closed_of_not_open (hopen ▸ hclosed), by rw [hheld]; omega⟩

/-- A turn keeps the invariant. -/
lemma Consistent.step (h : Consistent s) {t : Turn} (hstep : s.step t = some s') : Consistent s' := by
  have hle := h.exits_le
  cases moves_of_step hstep with
  | world hmeet =>
    rcases meet_eq hmeet with ⟨a, rfl, rfl⟩ | ⟨rfl, rfl⟩ | ⟨-, _, _, _, _, _, _, _, _, _, rfl, -⟩
    · split
      · exact h
      · exact { h with }
    · refine ⟨fun hclosed => ?_, ?_⟩
      · change s.slot.abandon = .closed
        rw [h.closed_of_not_open hclosed]
        rfl
      · exact (Nat.add_le_add_right (Nat.zero_le _) _).trans hle
    · exact { h with }
  | router hstage hrouter =>
    obtain ⟨_, _, _, slot, more, _, _, rfl, hmore, hslot⟩ := stepRouter_eq hrouter
    have hnone : more.countP isExit = 0 :=
      List.countP_eq_zero.mpr fun n hn => by simp [isExit, hmore n hn]
    refine ⟨fun hclosed => ?_, ?_⟩
    · have hbefore := h.closed_of_not_open hclosed
      rcases hslot with hsame | hvacant
      · exact hsame.trans hbefore
      · rw [hvacant] at hbefore
        cases hbefore
    · change (s.notices ++ more).countP isExit + _ ≤ _
      rw [List.countP_append, hnone]
      exact hle
  | relay hstage hrelay =>
    obtain ⟨_, _, _, more, _, _, rfl, -, hmore, -⟩ := stepRelay_eq hrelay
    have hnone : more.countP isExit = 0 :=
      List.countP_eq_zero.mpr fun n hn => by simp [isExit, (hmore n hn).1]
    refine ⟨h.closed_of_not_open, ?_⟩
    change (s.notices ++ more).countP isExit + _ ≤ _
    rw [List.countP_append, hnone]
    exact hle
  | pump hstage hpump =>
    obtain ⟨_, _, _, _, rfl, -⟩ := stepPump_eq hpump
    exact { h with }
  | watcher hstage hwatcher =>
    obtain ⟨watcher, _, _, more, _, rfl, -, hmore⟩ := stepWatcher_eq hwatcher
    refine ⟨h.closed_of_not_open, ?_⟩
    change (s.notices ++ more).countP isExit + s.controller.held.isSome.toNat ≤ watcher.isSpent.toNat
    rw [List.countP_append]
    rcases hmore with ⟨rfl, hspent⟩ | ⟨⟨failure?, rfl, -⟩, hbefore, hafter⟩
    · exact hle.trans (Bool.toNat_le_toNat hspent)
    · rw [hbefore] at hle
      rw [hafter]
      simp only [Bool.toNat_false, Nat.le_zero, Nat.add_eq_zero_iff] at hle
      rw [hle.1, hle.2]
      rfl
  | controller hstage hcontroller =>
    obtain ⟨m, hmove, _, _, slot, _, rfl, hslot, -⟩ := stepController_eq hcontroller
    obtain ⟨hclosed, hexits⟩ := h.find (Controller.finding_of_step hmove)
    refine ⟨fun hopen => ?_, hexits⟩
    rcases hslot with hsame | habandoned
    · exact hsame.trans (hclosed hopen)
    · change slot = .closed
      rw [habandoned, hclosed hopen]
      rfl

/-- The invariant holds after every course. -/
theorem consistent_run {name : String} {config : Config} {turns : List Turn}
    (hrun : (create name config).run turns = some s) : Consistent s :=
  run_induction (fun _ _ _ h => h.step) hrun (consistent_create name config)

/-- While a failure of the engine is held back, its end is not reported again. -/
lemma Consistent.activity_ne_of_held (h : Consistent s) (hheld : s.controller.held.isSome = true)
    {n : Notice} (hn : n ∈ s.notices) : n.activity ≠ .processWait := by
  intro hactivity
  have hle := h.exits_le
  have hspent := s.watcher.isSpent.toNat_le
  have hpos : 0 < s.notices.countP isExit := List.countP_pos_iff.mpr ⟨n, hn, by simp [isExit, hactivity]⟩
  rw [hheld, Bool.toNat_true] at hle
  omega

/-! ### What lasts -/

/-- A path stays in the slot. -/
lemma slot_of_step {t : Turn} {path : FiveTuple} (hstep : s.step t = some s')
    (hslot : s.slot = .full path) : s'.slot = .full path := by
  have habandon : s.slot.abandon = .full path := by
    rw [hslot]
    rfl
  cases moves_of_step hstep with
  | world h =>
    rcases meet_eq h with ⟨a, rfl, rfl⟩ | ⟨rfl, rfl⟩ | ⟨-, _, _, _, _, _, _, _, _, _, rfl, -⟩
    · split <;> exact hslot
    · exact habandon
    · exact hslot
  | router hstage h =>
    obtain ⟨_, _, _, _, _, _, _, rfl, -, hsame | hvacant⟩ := stepRouter_eq h
    · exact hsame.trans hslot
    · rw [hslot] at hvacant
      cases hvacant
  | relay hstage h =>
    obtain ⟨_, _, _, _, _, _, rfl, -⟩ := stepRelay_eq h
    exact hslot
  | pump hstage h =>
    obtain ⟨_, _, _, _, rfl, -⟩ := stepPump_eq h
    exact hslot
  | watcher hstage h =>
    obtain ⟨_, _, _, _, _, rfl, -⟩ := stepWatcher_eq h
    exact hslot
  | controller hstage h =>
    obtain ⟨_, -, _, _, _, _, rfl, hsame | hsame, -⟩ := stepController_eq h
    · exact hsame.trans hslot
    · exact hsame.trans habandon

/-- A path stays in the slot in any course. -/
lemma slot_of_run {turns : List Turn} {path : FiveTuple} (hrun : s.run turns = some s')
    (hslot : s.slot = .full path) : s'.slot = .full path :=
  run_induction (fun _ _ _ hs hstep => slot_of_step hstep hs) hrun hslot

/-- The controller has decided, if anybody still waits for the outcome. -/
def IsDecided (s : Session) (outcome : Outcome) : Prop :=
  s.stage = .started ∧
    (s.controller.decision? = some outcome ∨ s.controller.phase = .abandoned)

/-- A decision stands. -/
lemma IsDecided.step {outcome : Outcome} (h : s.IsDecided outcome) {t : Turn}
    (hstep : s.step t = some s') : s'.IsDecided outcome := by
  obtain ⟨hstarted, hdecided⟩ := h
  cases moves_of_step hstep with
  | world h =>
    rcases meet_eq h with ⟨a, rfl, rfl⟩ | ⟨rfl, rfl⟩ | ⟨-, _, _, _, _, _, _, _, _, _, rfl, -, hstage⟩
    · split <;> exact ⟨hstarted, hdecided⟩
    · exact ⟨hstarted, .inr rfl⟩
    · exact ⟨hstage hstarted, hdecided⟩
  | router hstage h =>
    obtain ⟨_, _, _, _, _, _, _, rfl, -⟩ := stepRouter_eq h
    exact ⟨hstarted, hdecided⟩
  | relay hstage h =>
    obtain ⟨_, _, _, _, _, _, rfl, -⟩ := stepRelay_eq h
    exact ⟨hstarted, hdecided⟩
  | pump hstage h =>
    obtain ⟨_, _, _, _, rfl, -⟩ := stepPump_eq h
    exact ⟨hstarted, hdecided⟩
  | watcher hstage h =>
    obtain ⟨_, _, _, _, _, rfl, -⟩ := stepWatcher_eq h
    exact ⟨hstarted, hdecided⟩
  | controller hstage h =>
    obtain ⟨m, hmove, _, _, _, _, rfl, -⟩ := stepController_eq h
    rcases hdecided with hdecision | habandoned
    · exact ⟨hstarted, .inl (Controller.decision_of_step hmove hdecision)⟩
    · simp [Controller.step, habandoned] at hmove

/-- A decision stands in any course. -/
lemma IsDecided.run {outcome : Outcome} (h : s.IsDecided outcome) {turns : List Turn}
    (hrun : s.run turns = some s') : s'.IsDecided outcome :=
  run_induction (fun _ _ _ hs hstep => IsDecided.step hs hstep) hrun h

/-- The outcome of a session is what the controller has decided on. -/
lemma IsDecided.outcome_eq {outcome outcome' : Outcome} (h : s.IsDecided outcome)
    (houtcome : s.outcome? = some outcome') : outcome' = outcome := by
  obtain ⟨hstarted, hdecided⟩ := h
  simp only [outcome?, hstarted, Controller.outcome?] at houtcome
  split at houtcome
  · next o hphase =>
    cases houtcome
    simpa [Controller.decision?, hphase] using hdecided
  · cases houtcome

/-! ### Overtaken paths -/

/-- The controller is about to look at the notices, which are exhausted, while it holds a failure back. -/
def isOvertaken (s : Session) : Bool :=
  s.controller.phase = .polling .notices && s.controller.isNoticesOpen && s.notices.isEmpty &&
    s.senders.isEmpty && s.controller.held.isSome

/-- With a path in the slot, a controller that gives up has failed with a notice of the relay, has been
cancelled, has held a failure back long enough, or has been overtaken. -/
lemma overtaken_of_givesUp {limit : Nat} {arrived : List Arrival} {path : FiveTuple}
    (hfaithful : Faithful limit arrived s) (hconsistent : Consistent s) (hslot : s.slot = .full path)
    (hrelay : ∀ failure, ⟨.relay, some failure⟩ ∉ s.notices) (hcancel : s.isCancelled = false)
    (hdeadline : ∀ failure deadline, s.controller.held = some (failure, deadline) → s.now < deadline)
    {failure : Failure} {act : Controller.Act}
    (hreason : Controller.GivesUp s.view s.controller failure act) : s.isOvertaken = true := by
  -- The router does not report beside the path.
  have hrouter : ∀ failure?, ⟨.router, failure?⟩ ∉ s.notices := by
    intro failure? hmem
    have := (hfaithful.of_slot path hslot).unique (hfaithful.of_notice _ hmem rfl)
    cases this
  cases hreason with
  | closed hphase hclosed hheld =>
    rw [show s.slot = _ from hclosed] at hslot
    cases hslot
  | ended hphase hnotices hheld =>
    have hmem : ⟨.router, none⟩ ∈ s.notices := by
      rw [show s.notices = _ from hnotices]
      exact List.mem_cons_self ..
    exact absurd hmem (hrouter none)
  | @second _ other _ activity rest hphase hnotices hheld =>
    have hnotices : s.notices = ⟨activity, some other⟩ :: rest := hnotices
    have hmem : ⟨activity, some other⟩ ∈ s.notices := by
      rw [hnotices]
      exact List.mem_cons_self ..
    cases activity with
    | router => exact absurd hmem (hrouter _)
    | relay => exact absurd hmem (hrelay other)
    | processWait => exact absurd rfl (hconsistent.activity_ne_of_held (by simp [hheld]) hmem)
  | @first _ activity rest hphase hnotices hheld hactivity =>
    have hnotices : s.notices = ⟨activity, some failure⟩ :: rest := hnotices
    have hmem : ⟨activity, some failure⟩ ∈ s.notices := by
      rw [hnotices]
      exact List.mem_cons_self ..
    cases activity with
    | router => exact absurd hmem (hrouter _)
    | relay => exact absurd hmem (hrelay failure)
    | processWait =>
      have hclosed := hconsistent.closed_of_not_open (hactivity.resolve_left (by simp))
      rw [hclosed] at hslot
      cases hslot
  | drained hphase hopen hnotices hsenders hheld =>
    have hnotices : s.notices = [] := hnotices
    have hsenders : s.senders = [] := by simpa [view] using hsenders
    simp [isOvertaken, hphase, hopen, hnotices, hsenders, hheld]
  | expired hphase hheld hpassed => exact absurd hpassed (Nat.not_le.mpr (hdeadline _ _ hheld))
  | cancelled hphase hcancelled =>
    rw [show s.isCancelled = _ from hcancelled] at hcancel
    cases hcancel

/-- However the tasks take their turns: if there is a path in the result slot while the controller waits,
and by the time that the controller stops waiting no failure of the relay has been reported, the caller
has not cancelled and no failure has been held back for too long, then the session ends with the path,
unless the controller is overtaken at its last look. -/
theorem outcome_of_full_slot (name : String) (config : Config) (before mid rest : List Turn)
    (s₁ s₂ s₃ s₄ : Session) (path : FiveTuple) (outcome : Outcome)
    (hbefore : (create name config).run before = some s₁) (hslot : s₁.slot = .full path)
    (hmid : s₁.run mid = some s₂) (hlooking : s₂.controller.isLooking = true)
    (hrelay : ∀ failure, ⟨.relay, some failure⟩ ∉ s₂.notices) (hcancel : s₂.isCancelled = false)
    (hdeadline : ∀ failure deadline, s₂.controller.held = some (failure, deadline) →
      s₂.now < deadline)
    (hstep : s₂.step .controller = some s₃) (hleft : s₃.controller.isLooking = false)
    (hrest : s₃.run rest = some s₄) (houtcome : s₄.outcome? = some outcome) :
    outcome = .connected path ↔ s₂.isOvertaken = false := by
  have hrun : (create name config).run (before ++ mid) = some s₂ := by
    rw [run_append, hbefore]
    exact hmid
  have hfaithful := faithful_run hrun
  have hconsistent := consistent_run hrun
  have hslot := slot_of_run hmid hslot
  cases moves_of_step hstep with
  | controller hstage hcontroller =>
    obtain ⟨m, hmove, _, _, _, _, hs₃, -⟩ := stepController_eq hcontroller
    have hfound : s₃.controller = m.controller := by rw [hs₃]
    have hstarted : s₃.stage = .started := by
      rw [hs₃]
      exact hstage
    cases Controller.finding_of_step hmove with
    | look _ hafter _ _ _ _ =>
      rw [hfound, hafter] at hleft
      cases hleft
    | hear notice rest hphase hnotices hafter hact hheld hopen =>
      simp [hfound, Controller.isLooking, hafter] at hleft
    | connect t hphase hfull hm =>
      obtain rfl : t = path := Slot.full.inj (hfull.symm.trans hslot)
      have hdecided : s₃.IsDecided (.connected t) :=
        ⟨hstarted, .inl (by rw [hfound, hm]; rfl)⟩
      refine iff_of_true ((hdecided.run hrest).outcome_eq houtcome) ?_
      simp [isOvertaken, hphase]
    | giveUp failure act hreason hm =>
      have hdecided : s₃.IsDecided (.failed failure) :=
        ⟨hstarted, .inl (by rw [hfound, hm]; rfl)⟩
      have hovertaken :=
        overtaken_of_givesUp hfaithful hconsistent hslot hrelay hcancel hdeadline hreason
      refine iff_of_false ?_ (by simp [hovertaken])
      rw [(hdecided.run hrest).outcome_eq houtcome]
      simp
    | windUp o hdecision _ _ _ _ _ =>
      rw [Controller.decision_eq_none hlooking] at hdecision
      cases hdecision

/-- The engine writes a path and ends with a failure, the relay and the watcher report and leave, and the
controller has heard of both when it has looked at the slot for the last time. -/
def overtakingCourse : List Turn :=
  [.world (.start none),
    .world (.stdout (.data (Bytes.ofText "[\"udp\",\"a:1\",\"5-tuple\"]\n"))),
    .world (.stderr .eof), .world (.exit (.exited 1))] ++
    List.replicate 8 .relay ++ List.replicate 4 (.watcher false) ++ List.replicate 5 .controller

/-- A path that is delivered while the controller is parked is the outcome, although a failure of the
engine has been held back before. -/
theorem outcome_of_path_behind_exit :
    let path : FiveTuple := ⟨.udp, "a:1", "5-tuple"⟩
    let before := overtakingCourse ++ List.replicate 3 .controller ++ List.replicate 3 .router
    let mid : List Turn := List.replicate 3 .router ++ [.controller]
    let rest : List Turn :=
      [.controller, .controller] ++ List.replicate 3 .pump ++ [.controller, .controller]
    ∃ s₁ s₂ s₃ s₄,
      (create "s" { binary := .path "engine" }).run before = some s₁ ∧ s₁.slot = .full path ∧
      s₁.run mid = some s₂ ∧ s₂.controller.held = some (.exitCode 1, 5000000) ∧
      s₂.step .controller = some s₃ ∧ s₃.run rest = some s₄ ∧
      ∃ outcome, s₄.outcome? = some outcome ∧ (outcome = .connected path ↔ s₂.isOvertaken = false) ∧
        s₂.isOvertaken = false := by
  intro path before mid rest
  have hend : ((create "s" { binary := .path "engine" }).run before).any (fun s₁ =>
      s₁.slot = .full path && (s₁.run mid).any fun s₂ =>
        s₂.controller.isLooking && s₂.notices.isEmpty && !s₂.isCancelled && s₂.now = 0 &&
          s₂.controller.held = some (.exitCode 1, 5000000) && !s₂.isOvertaken &&
          (s₂.step .controller).any fun s₃ =>
            !s₃.controller.isLooking && (s₃.run rest).any fun s₄ =>
              s₄.outcome? = some (.connected path)) = true := by
    decide +kernel
  simp only [Option.any_eq_true, Bool.and_eq_true, Bool.not_eq_true', decide_eq_true_eq,
    List.isEmpty_iff] at hend
  obtain ⟨s₁, h₁, hslot, s₂, h₂, ⟨⟨⟨⟨⟨hlooking, hnotices⟩, hcancel⟩, hnow⟩, hheld⟩, hnot⟩, s₃, h₃,
    hleft, s₄, h₄, houtcome⟩ := hend
  refine ⟨s₁, s₂, s₃, s₄, h₁, hslot, h₂, hheld, h₃, h₄, _, houtcome, ?_, hnot⟩
  exact outcome_of_full_slot "s" { binary := .path "engine" } before mid rest s₁ s₂ s₃ s₄ path _ h₁
    hslot h₂ hlooking (by simp [hnotices]) hcancel
    (fun failure deadline hd => by
      rw [hheld] at hd
      cases hd
      rw [hnow]
      decide) h₃ hleft h₄ houtcome

/-- A path that is delivered between two looks of the controller, together with the last sender of
notices, is lost to the failure that has been held back: nobody has cancelled, the relay has not failed
and the time is not over. -/
theorem path_lost_of_overtaken :
    let path : FiveTuple := ⟨.udp, "a:1", "5-tuple"⟩
    let before := overtakingCourse ++ List.replicate 3 .router
    let rest : List Turn :=
      [.controller, .controller, .router] ++ List.replicate 3 .pump ++ [.controller, .controller]
    ∃ s₁ s₂ s₃ s₄,
      (create "s" { binary := .path "engine" }).run before = some s₁ ∧ s₁.slot = .full path ∧
      s₁.controller.isLooking = true ∧ s₁.run [.router, .router] = some s₂ ∧
      s₂.controller.isLooking = true ∧ s₂.notices = [] ∧ s₂.isCancelled = false ∧ s₂.now = 0 ∧
      s₂.controller.held = some (.exitCode 1, 5000000) ∧ s₂.step .controller = some s₃ ∧
      s₃.controller.isLooking = false ∧ s₃.run rest = some s₄ ∧
      s₄.outcome? = some (.failed (.exitCode 1)) := by
  intro path before rest
  have hend : ((create "s" { binary := .path "engine" }).run before).any (fun s₁ =>
      s₁.slot = .full path && s₁.controller.isLooking && (s₁.run [.router, .router]).any fun s₂ =>
        s₂.controller.isLooking && s₂.notices.isEmpty && !s₂.isCancelled && s₂.now = 0 &&
          s₂.controller.held = some (.exitCode 1, 5000000) &&
          (s₂.step .controller).any fun s₃ =>
            !s₃.controller.isLooking && (s₃.run rest).any fun s₄ =>
              s₄.outcome? = some (.failed (.exitCode 1))) = true := by
    decide +kernel
  simp only [Option.any_eq_true, Bool.and_eq_true, Bool.not_eq_true', decide_eq_true_eq,
    List.isEmpty_iff] at hend
  obtain ⟨s₁, h₁, ⟨hslot, hlooking₁⟩, s₂, h₂, ⟨⟨⟨⟨hlooking, hnotices⟩, hcancel⟩, hnow⟩, hheld⟩, s₃, h₃,
    hleft, s₄, h₄, houtcome⟩ := hend
  exact ⟨s₁, s₂, s₃, s₄, h₁, hslot, hlooking₁, h₂, hlooking, hnotices, hcancel, hnow, hheld, h₃, hleft,
    h₄, houtcome⟩

end Traversal.Session
