import Mathlib
import Traversal.Proofs.Controller
import Traversal.Proofs.Reports
import Traversal.Proofs.RouterCourse
import Traversal.Session.Step

/-!
# What a turn of a session can do

`Session.Moves` says who moves in a turn, and for the world and for each task there is a lemma that says
what it leaves alone and what it adds: which notices, and whether it touches the result slot.  What every
turn keeps, every course keeps (`run_induction`).
-/

namespace Traversal

/-- If each step that counts takes from a measure, and no step adds more to it than its burden, the number of
the steps that count is bounded. -/
lemma countP_le_of_foldlM {State Turn : Type} {step : State → Turn → Option State} {P : State → Prop}
    {measure : State → Nat} {counts : Turn → Bool} {burden : Turn → Nat} {turns : List Turn}
    (hkeep : ∀ t ∈ turns, ∀ s s', P s → step s t = some s' →
      P s' ∧ (counts t).toNat + measure s' ≤ measure s + burden t)
    {s s' : State} (hrun : turns.foldlM step s = some s') (h : P s) :
    P s' ∧ turns.countP counts + measure s' ≤ measure s + (turns.map burden).sum := by
  induction turns generalizing s with
  | nil =>
    cases hrun
    exact ⟨h, by simp⟩
  | cons t turns ih =>
    obtain ⟨s₁, hstep, hrest⟩ := Option.bind_eq_some_iff.mp hrun
    obtain ⟨h₁, hfirst⟩ := hkeep t (List.mem_cons_self ..) s s₁ h hstep
    obtain ⟨h', hlater⟩ := ih (fun t' ht' => hkeep t' (List.mem_cons_of_mem _ ht')) hrest h₁
    refine ⟨h', ?_⟩
    rw [List.map_cons, List.sum_cons, List.countP_cons]
    cases hcounts : counts t with
    | true =>
      rw [hcounts, Bool.toNat_true] at hfirst
      simp only [if_true]
      omega
    | false =>
      rw [hcounts, Bool.toNat_false] at hfirst
      simp only [Bool.false_eq_true, if_false]
      omega

namespace Session

variable {s s' : Session}

/-! ### Courses -/

/-- What arrives on the engine's standard output in a turn. -/
def Turn.arrival? : Turn → Option Arrival
  | world (.stdout a) => some a
  | _ => none

/-- What arrives on the engine's standard output in a course. -/
def arrivals (turns : List Turn) : List Arrival :=
  turns.filterMap Turn.arrival?

/-- What arrives in a last turn comes behind all that has arrived. -/
lemma arrivals_concat (turns : List Turn) (t : Turn) :
    arrivals (turns ++ [t]) = arrivals turns ++ t.arrival?.toList := by
  unfold arrivals
  rw [List.filterMap_append]
  cases h : t.arrival? <;> simp [h]

/-- A course that goes on. -/
lemma run_append (s : Session) (turns more : List Turn) :
    s.run (turns ++ more) = (s.run turns).bind fun s' => s'.run more := by
  rw [run, List.foldlM_append]
  rfl

/-- A course with one turn more. -/
lemma run_concat (s : Session) (turns : List Turn) (t : Turn) :
    s.run (turns ++ [t]) = (s.run turns).bind fun s' => s'.step t := by
  rw [run_append]
  simp only [run, List.foldlM_cons, List.foldlM_nil, bind_pure]

/-- What every turn keeps, every course keeps. -/
lemma run_induction {P : Session → Prop} (hkeep : ∀ s t s', P s → step s t = some s' → P s')
    {turns : List Turn} (hrun : s.run turns = some s') (h : P s) : P s' := by
  induction turns generalizing s with
  | nil =>
    cases hrun
    exact h
  | cons t turns ih =>
    obtain ⟨s₁, hstep, hrun⟩ := Option.bind_eq_some_iff.mp hrun
    exact ih hrun (hkeep s t s₁ h hstep)

/-! ### Turns -/

/-- A session moves because of the world, or because of one of its tasks once it has been started. -/
inductive Moves (s s' : Session) : Turn → Prop
  | world {e : Event} (h : s.meet e = some s') : Moves s s' (.world e)
  | router (hstage : s.stage = .started) (h : s.stepRouter = some s') : Moves s s' .router
  | relay (hstage : s.stage = .started) (h : s.stepRelay = some s') : Moves s s' .relay
  | pump (hstage : s.stage = .started) (h : s.stepPump = some s') : Moves s s' .pump
  | watcher {prefersShutdown : Bool} (hstage : s.stage = .started)
      (h : s.stepWatcher prefersShutdown = some s') : Moves s s' (.watcher prefersShutdown)
  | controller (hstage : s.stage = .started) (h : s.stepController = some s') : Moves s s' .controller

/-- Every turn is of one of the kinds. -/
lemma moves_of_step {t : Turn} (h : s.step t = some s') : Moves s s' t := by
  cases t with
  | world e => exact .world h
  | router =>
    simp only [step] at h
    split at h
    · next hstage => exact .router hstage h
    · cases h
  | relay =>
    simp only [step] at h
    split at h
    · next hstage => exact .relay hstage h
    · cases h
  | pump =>
    simp only [step] at h
    split at h
    · next hstage => exact .pump hstage h
    · cases h
  | watcher prefersShutdown =>
    simp only [step] at h
    split at h
    · next hstage => exact .watcher hstage h
    · cases h
  | controller =>
    simp only [step] at h
    split at h
    · next hstage => exact .controller hstage h
    · cases h

/-! ### What a step leaves alone -/

/-- A notice gets behind the others, unless nobody listens. -/
lemma post_cases {activity : Activity} {failure? : Option Failure}
    (h : s.post activity failure? = some s') :
    s' = s ∨ s' = { s with notices := s.notices ++ [⟨activity, failure?⟩] } := by
  unfold post at h
  split at h
  · cases h
    exact .inl rfl
  · split at h <;> cases h
    exact .inr rfl

/-- The world brings something to the engine's standard output, or nobody waits for the outcome any
more, or else it leaves alone what the tasks, the slot and the notices are. -/
lemma meet_eq {e : Event} (h : s.meet e = some s') :
    (∃ a, e = .stdout a ∧
      s' = if s.hasReleased .stdout then s else { s with stdout := s.stdout.arrive a }) ∨
    e = .abandon ∧ s' = s.abandon ∨
    (Turn.world e).arrival? = none ∧
      ∃ stage mailbox diagnostics now isCancelled child stdin stderr released,
        s' =
          { s with
            stage := stage
            mailbox := mailbox
            diagnostics := diagnostics
            now := now
            isCancelled := isCancelled
            child := child
            stdin := stdin
            stderr := stderr
            released := released } ∧
        (Asset.stdout ∈ released → Asset.stdout ∈ s.released) ∧
        (s.stage = .started → stage = .started) := by
  unfold meet at h
  cases e with
  | stdout a =>
    cases h
    exact .inl ⟨a, rfl, rfl⟩
  | abandon =>
    simp only at h
    split at h <;> cases h
    exact .inr (.inl ⟨rfl, rfl⟩)
  | start failure? =>
    simp only at h
    split at h
    · next hready =>
      cases failure? <;> cases h <;>
        exact .inr (.inr ⟨rfl, _, _, _, _, _, _, _, _, _, rfl, by simp, by simp [hready]⟩)
    · cases h
  | discard =>
    simp only at h
    split at h
    · next hready =>
      cases h
      exact .inr (.inr ⟨rfl, _, _, _, _, _, _, _, _, _, rfl, by simp, by simp [hready]⟩)
    · cases h
  | stderr a =>
    cases h
    split <;> exact .inr (.inr ⟨rfl, _, _, _, _, _, _, _, _, _, rfl, id, id⟩)
  | submit payload | share | part =>
    simp only at h
    split at h <;> cases h
    exact .inr (.inr ⟨rfl, _, _, _, _, _, _, _, _, _, rfl, id, id⟩)
  | cancel | stdin e | diagnostics e | exit status | elapse duration =>
    cases h
    exact .inr (.inr ⟨rfl, _, _, _, _, _, _, _, _, _, rfl, id, id⟩)

/-- The router adds at most one notice, which is its own, and only puts something into a vacant slot. -/
lemma stepRouter_eq (h : s.stepRouter = some s') :
    ∃ router stdout sentRev slot more senders released,
      s' =
        { s with
          router := router
          stdout := stdout
          sentRev := sentRev
          slot := slot
          notices := s.notices ++ more
          senders := senders
          released := released } ∧
      (∀ n ∈ more, n.activity = .router) ∧ (slot = s.slot ∨ s.slot = .vacant) := by
  simp only [stepRouter, Option.bind_eq_bind, Option.bind_eq_some_iff] at h
  obtain ⟨⟨router, stdout, act⟩, -, h⟩ := h
  cases act with
  | inner =>
    cases h
    exact ⟨router, stdout, s.sentRev, s.slot, [], s.senders, s.released, by simp, by simp, .inl rfl⟩
  | forward message =>
    cases h
    exact ⟨router, stdout, message :: s.sentRev, s.slot, [], s.senders, s.released, by simp, by simp,
      .inl rfl⟩
  | deliver t =>
    cases h
    refine ⟨router, stdout, s.sentRev, s.slot.deliver t, [], s.senders, s.released, by simp, by simp, ?_⟩
    rcases s.slot.deliver_cases t with ⟨hsame, -⟩ | ⟨hvacant, -⟩
    · exact .inl hsame
    · exact .inr hvacant
  | post failure? =>
    rcases post_cases h with rfl | rfl
    · exact ⟨router, stdout, s.sentRev, s.slot, [], s.senders, s.released, by simp, by simp, .inl rfl⟩
    · exact ⟨router, stdout, s.sentRev, s.slot, [⟨.router, failure?⟩], s.senders, s.released, rfl,
        by simp, .inl rfl⟩
  | release hold =>
    cases hold with
    | stdout =>
      cases h
      exact ⟨router, stdout, s.sentRev, s.slot, [], s.senders, _, by simp [release]; rfl, by simp,
        .inl rfl⟩
    | notices =>
      cases h
      exact ⟨router, stdout, s.sentRev, s.slot, [], _, s.released, by simp [silence]; rfl, by simp,
        .inl rfl⟩
    | slot =>
      cases h
      refine ⟨router, stdout, s.sentRev, s.slot.release, [], s.senders, s.released, by simp, by simp, ?_⟩
      rcases s.slot.release_cases with ⟨hsame, -⟩ | ⟨hvacant, -⟩
      · exact .inl hsame
      · exact .inr hvacant

/-- The relay adds at most one notice, which is its own and is about a fault of a stream. -/
lemma stepRelay_eq (h : s.stepRelay = some s') :
    ∃ relay stderr diagnostics more senders released,
      s' =
        { s with
          relay := relay
          stderr := stderr
          diagnostics := diagnostics
          notices := s.notices ++ more
          senders := senders
          released := released } ∧
      (∀ failure, relay.phase = .posting (some failure) → failure.kind = .io) ∧
      (∀ n ∈ more, n.activity = .relay ∧ s.relay.phase = .posting n.failure?) ∧
      (Asset.stdout ∈ released → Asset.stdout ∈ s.released) := by
  simp only [stepRelay, Option.bind_eq_bind, Option.bind_eq_some_iff] at h
  obtain ⟨⟨relay, stderr, diagnostics, act⟩, hmove, h⟩ := h
  have hkind : ∀ failure, relay.phase = .posting (some failure) → failure.kind = .io := by
    intro failure hposting
    rcases Relay.report_of_step hmove with hquiet | ⟨hnone, -⟩
    · exact hquiet.2 failure hposting
    · exact absurd hposting (hnone _)
  cases act with
  | inner =>
    cases h
    exact ⟨relay, stderr, diagnostics, [], s.senders, s.released, by simp, hkind, by simp, id⟩
  | post failure? =>
    have hphase : s.relay.phase = .posting failure? := by
      rcases Relay.report_of_step hmove with ⟨hinner, -⟩ | ⟨-, ⟨reported?, hact, hphase⟩ | ⟨_, hact⟩⟩
      · cases hinner
      · cases hact
        exact hphase
      · cases hact
    rcases post_cases h with rfl | rfl
    · exact ⟨relay, stderr, diagnostics, [], s.senders, s.released, by simp, hkind, by simp, id⟩
    · exact ⟨relay, stderr, diagnostics, [⟨.relay, failure?⟩], s.senders, s.released, rfl, hkind,
        by simp [hphase], id⟩
  | release hold =>
    cases hold <;> cases h <;>
      exact ⟨relay, stderr, diagnostics, [], _, _, by simp only [List.append_nil]; rfl, hkind, by simp,
        by simp⟩

/-- The pump leaves all alone but the engine's standard input and the mailbox. -/
lemma stepPump_eq (h : s.stepPump = some s') :
    ∃ pump stdin mailbox released,
      s' = { s with pump := pump, stdin := stdin, mailbox := mailbox, released := released } ∧
      (Asset.stdout ∈ released → Asset.stdout ∈ s.released) := by
  simp only [stepPump, Option.bind_eq_bind, Option.bind_eq_some_iff] at h
  obtain ⟨⟨pump, stdin, act⟩, -, h⟩ := h
  cases act with
  | inner | take | answer ticket failure? =>
    cases h
    exact ⟨pump, stdin, _, s.released, rfl, id⟩
  | release hold => cases hold <;> cases h <;> exact ⟨pump, stdin, _, _, rfl, by simp⟩

/-- The watcher adds at most one notice, which is its own and is about the end of the engine, and it adds
one only if it has not done so before. -/
lemma stepWatcher_eq {prefersShutdown : Bool} (h : s.stepWatcher prefersShutdown = some s') :
    ∃ watcher child isKilled more senders,
      s' =
        { s with
          watcher := watcher
          child := child
          isKilled := isKilled
          notices := s.notices ++ more
          senders := senders } ∧
      (∀ failure, watcher.phase = .posting (some failure) → failure.kind = .exit) ∧
      (more = [] ∧ (s.watcher.isSpent = true → watcher.isSpent = true) ∨
        (∃ failure?, more = [⟨.processWait, failure?⟩] ∧ s.watcher.phase = .posting failure?) ∧
          s.watcher.isSpent = false ∧ watcher.isSpent = true) := by
  simp only [stepWatcher, Option.bind_eq_bind, Option.bind_eq_some_iff] at h
  obtain ⟨⟨watcher, child, act⟩, hmove, h⟩ := h
  obtain ⟨hkind, hspent⟩ := Watcher.report_of_step hmove
  cases act with
  | inner =>
    cases h
    exact ⟨watcher, child, s.isKilled, [], s.senders, by simp, hkind, .inl ⟨rfl, hspent.trans⟩⟩
  | kill =>
    cases h
    exact ⟨watcher, child, true, [], s.senders, by simp, hkind, .inl ⟨rfl, hspent.trans⟩⟩
  | post failure? =>
    obtain ⟨hphase, hbefore, hafter⟩ := hspent
    rcases post_cases h with rfl | rfl
    · exact ⟨watcher, child, s.isKilled, [], s.senders, by simp, hkind, .inl ⟨rfl, fun _ => hafter⟩⟩
    · exact ⟨watcher, child, s.isKilled, [⟨.processWait, failure?⟩], s.senders, rfl, hkind,
        .inr ⟨⟨failure?, rfl, hphase⟩, hbefore, hafter⟩⟩
  | release hold =>
    cases hold <;> cases h <;>
      exact ⟨watcher, child, s.isKilled, [], _, by simp only [List.append_nil]; rfl, hkind,
        .inl ⟨rfl, hspent.trans⟩⟩

/-- The controller only takes notices away, and the slot, which it leaves at the end. -/
lemma stepController_eq (h : s.stepController = some s') :
    ∃ m, s.controller.step s.view = some m ∧ ∃ isShutdown hasListener slot released,
      s' =
        { s with
          controller := m.controller
          notices := m.act.remaining s.notices
          isShutdown := isShutdown
          hasListener := hasListener
          slot := slot
          released := released } ∧
      (slot = s.slot ∨ slot = s.slot.abandon) ∧
      (Asset.stdout ∈ released → Asset.stdout ∈ s.released) := by
  simp only [stepController, Option.bind_eq_bind, Option.bind_eq_some_iff] at h
  obtain ⟨⟨controller, act⟩, hmove, h⟩ := h
  refine ⟨⟨controller, act⟩, hmove, ?_⟩
  cases act with
  | inner | take | stop | leave =>
    cases h
    exact ⟨_, _, s.slot, s.released, rfl, .inl rfl, id⟩
  | clear =>
    cases h
    exact ⟨s.isShutdown, s.hasListener, s.slot.abandon, _, rfl, .inr rfl, by simp⟩

end Session
end Traversal
