import Mathlib
import Traversal.Proofs.RouterCourse

/-!
# What is to be seen of a router

A `Trail` goes along with a course of a router and writes down all that the router shows to others, and
whether it has found the session shut down.  What it shows has one shape, which `Trail.Shaped` spells out:
messages, then at most one report, which is a path delivered or a notice posted, and then it lets go of one
thing after another.

A shutdown only cuts a course short.  If it is put anywhere into a course, the router stays in step with the
course without it until it finds the session shut down, and from then on it only lets go (`InStep.turn`).  And
whenever a router is left alone until it can do nothing more, it has passed on all that any course with the
same arrivals can pass on (`sent_of_standstill`).
-/

namespace Traversal

namespace Router

/-- Whether a router tells its verdict in this way. -/
def Act.isReport : Act → Bool
  | .deliver _ => true
  | .post _ => true
  | _ => false

/-- What a router lets go of in the end, in order. -/
def Act.releases : List Act :=
  [.release .stdout, .release .notices, .release .slot]

/-- What a router lets go of is not a report. -/
lemma Act.isReport_of_releases {n : Nat} {act : Act} (h : act ∈ Act.releases.take n) :
    act.isReport = false := by
  have hrelease := List.mem_of_mem_take h
  simp only [Act.releases, List.mem_cons, List.not_mem_nil, or_false] at hrelease
  rcases hrelease with rfl | rfl | rfl <;> rfl

/-- What others see of a step that shows this. -/
def Act.seen : Act → List Act
  | .inner => []
  | act => [act]

/-- The message that a step passes on. -/
def Act.message? : Act → Option Bytes
  | .forward message => some message
  | _ => none

/-- A router looks for a shutdown only while it waits. -/
lemma step_congr {r : Router} (h : r.phase ≠ .waiting) (isShutdown isShutdown' : Bool) (s : Source) :
    r.step isShutdown s = r.step isShutdown' s := by
  unfold step
  cases hphase : r.phase with
  | waiting => exact absurd hphase h
  | _ => rfl

/-- A message of a stream is a plain line of it. -/
lemma plain_of_mem_messages {limit : Nat} {bytes message : Bytes} (h : message ∈ messages limit bytes) :
    Bytes.newline ∉ message ∧ FiveTuple.isMarked message = false ∧ message.length ≤ limit := by
  have hline : message ∈ Bytes.lines bytes := (List.takeWhile_sublist _).subset h
  have hplain : isPlain limit message = true := List.mem_takeWhile_imp h
  refine ⟨Bytes.newline_not_mem_of_mem_lines hline, ?_⟩
  unfold isPlain at hplain
  simp only [Bool.and_eq_true, decide_eq_true_eq, Bool.not_eq_true'] at hplain
  exact ⟨hplain.2, hplain.1⟩

end Router

namespace RouterRig

open Router Arrival

/-! ### What a turn does -/

/-- What others see of the router in a turn. -/
def shown (rig : RouterRig) : Turn → List Act
  | .event _ => []
  | .router => ((rig.router.step rig.isShutdown rig.stdout).map fun m => m.act.seen).getD []

/-- Whether the router finds the session shut down in its next step. -/
def findsShutdown (rig : RouterRig) : Bool :=
  rig.isShutdown && rig.router.phase = .waiting

/-- A turn of the router, and what others see of it. -/
lemma turn_of_step {rig : RouterRig} {m : Move}
    (h : rig.router.step rig.isShutdown rig.stdout = some m) :
    rig.turn .router = { rig with router := m.router, stdout := m.stdout }.witness m.act ∧
      rig.shown .router = m.act.seen := by
  simp [turn, step, shown, h]

/-- If the router cannot move, nothing changes and nothing is seen. -/
lemma turn_of_rest {rig : RouterRig} (h : rig.router.step rig.isShutdown rig.stdout = none) :
    rig.turn .router = rig ∧ rig.shown .router = [] := by
  simp [turn, step, shown, h]

/-- What happens around a router passes nothing on and does not move it. -/
lemma sent_apply (rig : RouterRig) (e : Event) :
    (rig.apply e).sent = rig.sent ∧ (rig.apply e).router = rig.router := by
  cases e with
  | arrival a =>
    rw [apply_arrival]
    split
    · exact ⟨rfl, rfl⟩
    · exact ⟨rfl, rfl⟩
  | shutdown => exact ⟨rfl, rfl⟩
  | dropNotices => exact ⟨rfl, rfl⟩
  | dropResult => exact ⟨rfl, rfl⟩

/-- What the router shows adds the message that it passes on, if it does so. -/
lemma sent_witness (rig : RouterRig) (act : Act) :
    (rig.witness act).sent = rig.sent ++ act.message?.toList := by
  cases act with
  | post failure? => cases hlistener : rig.hasListener <;> simp [witness, sent, hlistener, Act.message?]
  | release hold => cases hold <;> simp [witness, sent, Act.message?]
  | inner | forward | deliver => simp [witness, sent, Act.message?]

/-- A turn only adds to what has been passed on. -/
lemma sent_prefix_turn (rig : RouterRig) (t : Turn) : rig.sent <+: (rig.turn t).sent := by
  cases t with
  | event e =>
    change rig.sent <+: (rig.apply e).sent
    rw [(rig.sent_apply e).1]
  | router =>
    cases hstep : rig.router.step rig.isShutdown rig.stdout with
    | none => rw [(turn_of_rest hstep).1]
    | some m =>
      rw [(turn_of_step hstep).1, sent_witness]
      exact List.prefix_append _ _

/-- A router that has told its verdict, or has been told to stop, only lets go of things. -/
lemma letsGo_of_step {r : Router} {s : Source} {isShutdown : Bool} {m : Move}
    (h : r.step isShutdown s = some m) (hrank : 2 ≤ r.rank) :
    (∃ hold, m.act = .release hold) ∧ 2 ≤ m.router.rank := by
  have hspans := rank_of_step h
  cases hact : m.act with
  | release hold =>
    rw [hact] at hspans
    cases hold with
    | stdout | notices | slot =>
      obtain ⟨-, hafter⟩ := hspans
      exact ⟨⟨_, rfl⟩, by omega⟩
  | inner | forward | deliver | post =>
    rw [hact] at hspans
    have := hspans.1
    omega

/-- From then on nothing is passed on and nothing is reported. -/
lemma letsGo_of_turn {rig : RouterRig} (h : 2 ≤ rig.router.rank) (t : Turn) :
    2 ≤ (rig.turn t).router.rank ∧ (rig.turn t).sent = rig.sent ∧
      ∀ act ∈ rig.shown t, act.isReport = false := by
  cases t with
  | event e =>
    obtain ⟨hsent, hrouter⟩ := rig.sent_apply e
    change 2 ≤ (rig.apply e).router.rank ∧ (rig.apply e).sent = rig.sent ∧ _
    rw [hrouter]
    exact ⟨h, hsent, by simp [shown]⟩
  | router =>
    cases hstep : rig.router.step rig.isShutdown rig.stdout with
    | none =>
      obtain ⟨hturn, hshown⟩ := turn_of_rest hstep
      rw [hturn, hshown]
      exact ⟨h, rfl, by simp⟩
    | some m =>
      obtain ⟨⟨hold, hact⟩, hrank⟩ := letsGo_of_step hstep h
      obtain ⟨hturn, hshown⟩ := turn_of_step hstep
      rw [hturn, hshown, sent_witness, witness_router, hact]
      refine ⟨hrank, by simp [sent, Act.message?], ?_⟩
      intro act hmem
      obtain rfl : act = .release hold := by simpa [Act.seen] using hmem
      rfl

/-! ### The trail -/

/-- A rig, and what has been seen of its router. -/
structure Trail where
  rig : RouterRig
  acts : List Act := []
  /-- The router has found the session shut down. -/
  sawShutdown : Bool := false

namespace Trail

/-- A trail at the start. -/
def start (limit : Nat) : Trail where
  rig := RouterRig.start limit

/-- A trail after a turn. -/
def turn (l : Trail) (t : Turn) : Trail where
  rig := l.rig.turn t
  acts := l.acts ++ l.rig.shown t
  sawShutdown := l.sawShutdown || (t = .router && l.rig.findsShutdown)

/-- A trail after a course. -/
def course (l : Trail) (turns : List Turn) : Trail :=
  turns.foldl turn l

@[simp] lemma course_append (l : Trail) (before after : List Turn) :
    l.course (before ++ after) = (l.course before).course after :=
  List.foldl_append

/-- The rig of a trail goes its course. -/
lemma rig_course (l : Trail) (turns : List Turn) : (l.course turns).rig = l.rig.course turns := by
  induction turns generalizing l with
  | nil => rfl
  | cons t turns ih => exact ih (l.turn t)

/-! ### The shape of a trail -/

/-- What holds of a trail after any course. -/
structure Shaped (l : Trail) : Prop where
  /-- There are messages, then at most one report, and then the router lets go. -/
  acts_eq : ∃ report? : Option Act, (∀ act ∈ report?, act.isReport = true) ∧
    (l.rig.router.rank < 2 ∨ l.sawShutdown = true → report? = none) ∧
    l.acts = l.rig.sent.map .forward ++ report?.toList ++ Act.releases.take (l.rig.router.rank - 2)
  rank_of_sawShutdown : l.sawShutdown = true → 2 ≤ l.rig.router.rank
  closed_of_rank : 3 ≤ l.rig.router.rank → l.rig.isStdoutClosed = true
  /-- Nothing is heard that the router has not told. -/
  of_full : ∀ path, l.rig.slot = .full path → Act.deliver path ∈ l.acts
  of_notice : ∀ n ∈ l.rig.noticesRev, Act.post n.failure? ∈ l.acts

variable {l : Trail}

/-- The shape of a trail at the start. -/
lemma shaped_start (limit : Nat) : Shaped (start limit) where
  acts_eq := ⟨none, by simp, by simp, by
    simp [start, RouterRig.start, Router.start, RouterRig.sent, rank]⟩
  rank_of_sawShutdown := by simp [start]
  closed_of_rank := by simp [start, RouterRig.start, Router.start, rank]
  of_full := by simp [start, RouterRig.start]
  of_notice := by simp [start, RouterRig.start]

/-- A router that finds the session shut down begins to let go, and nobody sees it. -/
lemma step_of_findsShutdown {rig : RouterRig} {m : Move} (hfinds : rig.findsShutdown = true)
    (hstep : rig.router.step rig.isShutdown rig.stdout = some m) :
    m.act = .inner ∧ m.router.rank = 2 := by
  simp only [findsShutdown, Bool.and_eq_true, decide_eq_true_eq] at hfinds
  obtain ⟨hshut, hphase⟩ := hfinds
  unfold Router.step at hstep
  simp only [hphase, hshut, if_true, Option.some.injEq] at hstep
  subst hstep
  exact ⟨rfl, rfl⟩

/-- A step keeps the messages, the report and what has been let go in their order. -/
lemma Shaped.acts_of_step (h : Shaped l) {m : Move}
    (hstep : l.rig.router.step l.rig.isShutdown l.rig.stdout = some m) :
    ∃ report? : Option Act, (∀ act ∈ report?, act.isReport = true) ∧
      (m.router.rank < 2 ∨ (l.sawShutdown || l.rig.findsShutdown) = true → report? = none) ∧
      l.acts ++ m.act.seen = (l.rig.sent ++ m.act.message?.toList).map .forward ++ report?.toList ++
        Act.releases.take (m.router.rank - 2) := by
  obtain ⟨report?, hreport, hnone, hacts⟩ := h.acts_eq
  have hspans := rank_of_step hstep
  -- A router that has seen a shutdown, or sees it now, tells no verdict.
  have hblind : l.rig.router.rank < 2 → m.act ≠ .inner →
      (l.sawShutdown || l.rig.findsShutdown) = false := by
    intro hrank hact
    rw [Bool.or_eq_false_iff]
    constructor
    · by_contra hsaw
      have := h.rank_of_sawShutdown (by simpa using hsaw)
      omega
    · by_contra hfinds
      exact hact (step_of_findsShutdown (by simpa using hfinds) hstep).1
  cases hact : m.act with
  | inner =>
    rw [hact] at hspans
    obtain ⟨hbefore, hafter⟩ := hspans
    have htaken : m.router.rank - 2 = 0 := by omega
    obtain rfl : report? = none := hnone (.inl (by omega))
    exact ⟨none, by simp, fun _ => rfl, by simp [hacts, hbefore, htaken, Act.seen, Act.message?]⟩
  | forward message =>
    rw [hact] at hspans
    obtain ⟨hbefore, hafter⟩ := hspans
    obtain rfl : report? = none := hnone (.inl (by omega))
    exact ⟨none, by simp, fun _ => rfl, by simp [hacts, hbefore, hafter, Act.seen, Act.message?]⟩
  | deliver | post =>
    rw [hact] at hspans
    obtain ⟨hbefore, hafter⟩ := hspans
    have hsaw := hblind (by omega) (by simp [hact])
    obtain rfl : report? = none := hnone (.inl (by omega))
    refine ⟨m.act.seen.head?, by simp [hact, Act.seen, Act.isReport], ?_, ?_⟩
    · rintro (hrank | hseen)
      · omega
      · simp [hsaw] at hseen
    · simp [hact, hacts, hbefore, hafter, Act.seen, Act.message?]
  | release hold =>
    refine ⟨report?, hreport, ?_, ?_⟩
    · rintro (hrank | hseen)
      · rw [hact] at hspans
        cases hold <;> have := hspans.2 <;> omega
      · refine hnone (.inr ?_)
        rcases Bool.or_eq_true_iff.mp hseen with hsaw | hfinds
        · exact hsaw
        · have := (step_of_findsShutdown hfinds hstep).1
          simp [hact] at this
    · rw [hact] at hspans
      cases hold with
      | stdout | notices | slot =>
        obtain ⟨hbefore, hafter⟩ := hspans
        simp [hacts, hbefore, hafter, Act.seen, Act.message?, Act.releases]

/-- The stream is closed as soon as the router has let go of it. -/
lemma Shaped.closed_of_step (h : Shaped l) {m : Move}
    (hstep : l.rig.router.step l.rig.isShutdown l.rig.stdout = some m) (hrank : 3 ≤ m.router.rank) :
    ({ l.rig with router := m.router, stdout := m.stdout }.witness m.act).isStdoutClosed = true := by
  have hspans := rank_of_step hstep
  cases hact : m.act with
  | inner | forward | deliver | post =>
    rw [hact] at hspans
    have := hspans.2
    omega
  | release hold =>
    rw [hact] at hspans
    cases hold with
    | stdout => rfl
    | notices | slot =>
      obtain ⟨hbefore, -⟩ := hspans
      exact h.closed_of_rank (by omega)

/-- What is heard after a step the router has told before, or tells in the step. -/
lemma Shaped.heard_of_step (h : Shaped l) (m : Move) :
    let rig := { l.rig with router := m.router, stdout := m.stdout }.witness m.act
    (∀ path, rig.slot = .full path → Act.deliver path ∈ l.acts ++ m.act.seen) ∧
      ∀ n ∈ rig.noticesRev, Act.post n.failure? ∈ l.acts ++ m.act.seen := by
  have hfull : ∀ path, l.rig.slot = .full path → Act.deliver path ∈ l.acts ++ m.act.seen :=
    fun path hpath => List.mem_append_left _ (h.of_full path hpath)
  have hnotice : ∀ n ∈ l.rig.noticesRev, Act.post n.failure? ∈ l.acts ++ m.act.seen :=
    fun n hn => List.mem_append_left _ (h.of_notice n hn)
  intro rig
  cases hact : m.act with
  | inner | forward =>
    simp only [rig, hact, witness] at hfull hnotice ⊢
    exact ⟨hfull, hnotice⟩
  | deliver t =>
    rw [hact] at hfull hnotice
    refine ⟨fun path hpath => ?_, by simpa only [rig, hact, witness] using hnotice⟩
    rcases l.rig.slot.deliver_cases t with ⟨hsame, -⟩ | ⟨-, hdelivered⟩
    · exact hfull path (by simpa [rig, hact, witness, hsame] using hpath)
    · obtain rfl : t = path := by simpa [rig, hact, witness, hdelivered] using hpath
      simp [Act.seen]
  | post failure? =>
    rw [hact] at hfull hnotice
    cases hlistener : l.rig.hasListener with
    | false =>
      simp only [rig, hact, witness, hlistener, Bool.false_eq_true, if_false]
      exact ⟨hfull, hnotice⟩
    | true =>
      simp only [rig, hact, witness, hlistener, if_true]
      refine ⟨hfull, fun n hn => ?_⟩
      rcases List.mem_cons.mp hn with rfl | hold
      · simp [Act.seen]
      · exact hnotice n hold
  | release hold =>
    rw [hact] at hfull hnotice
    cases hold with
    | stdout | notices =>
      simp only [rig, hact, witness]
      exact ⟨hfull, hnotice⟩
    | slot =>
      refine ⟨fun path hpath => ?_, by simpa only [rig, hact, witness] using hnotice⟩
      rcases l.rig.slot.release_cases with ⟨hsame, -⟩ | ⟨-, hclosed⟩
      · exact hfull path (by simpa [rig, hact, witness, hsame] using hpath)
      · simp [rig, hact, witness, hclosed] at hpath

/-- A turn keeps the shape of a trail. -/
lemma Shaped.turn (h : Shaped l) (t : Turn) : Shaped (l.turn t) := by
  cases t with
  | event e =>
    obtain ⟨hsent, hrouter⟩ := l.rig.sent_apply e
    have hturn : l.turn (.event e) = { l with rig := l.rig.apply e } := by
      simp [Trail.turn, RouterRig.turn, shown]
    rw [hturn]
    refine
      { acts_eq := by
          simp only [hrouter, hsent]
          exact h.acts_eq
        rank_of_sawShutdown := by
          simp only [hrouter]
          exact h.rank_of_sawShutdown
        closed_of_rank := fun hrank => ?_
        of_full := fun path hpath => h.of_full path ?_
        of_notice := fun n hn => h.of_notice n ?_ }
    · have hclosed := h.closed_of_rank (by simpa [hrouter] using hrank)
      cases e with
      | arrival a => simp [apply_arrival, hclosed]
      | shutdown | dropNotices | dropResult => exact hclosed
    · cases e with
      | arrival a =>
        simp only [apply_arrival] at hpath
        split at hpath <;> exact hpath
      | shutdown | dropNotices => exact hpath
      | dropResult => exact Slot.eq_of_abandon hpath (by simp)
    · cases e with
      | arrival a =>
        simp only [apply_arrival] at hn
        split at hn <;> exact hn
      | shutdown | dropNotices | dropResult => exact hn
  | router =>
    cases hstep : l.rig.router.step l.rig.isShutdown l.rig.stdout with
    | none =>
      obtain ⟨hturn, hshown⟩ := turn_of_rest hstep
      have hfinds : l.rig.findsShutdown = false := by
        by_contra hfinds
        simp only [findsShutdown, Bool.not_eq_false, Bool.and_eq_true, decide_eq_true_eq] at hfinds
        simp [Router.step, hfinds.1, hfinds.2] at hstep
      have hsame : l.turn .router = l := by
        simp [Trail.turn, hturn, hshown, hfinds]
      rw [hsame]
      exact h
    | some m =>
      obtain ⟨hturn, hshown⟩ := turn_of_step hstep
      have hsame : l.turn .router =
          { rig := { l.rig with router := m.router, stdout := m.stdout }.witness m.act
            acts := l.acts ++ m.act.seen
            sawShutdown := l.sawShutdown || l.rig.findsShutdown } := by
        simp [Trail.turn, hturn, hshown]
      rw [hsame]
      obtain ⟨hfull, hnotice⟩ := h.heard_of_step m
      refine
        { acts_eq := ?_
          rank_of_sawShutdown := fun hsaw => ?_
          closed_of_rank := fun hrank => h.closed_of_step hstep (by simpa using hrank)
          of_full := hfull
          of_notice := hnotice }
      · rw [witness_router, sent_witness]
        exact h.acts_of_step hstep
      · rw [witness_router]
        rcases Bool.or_eq_true_iff.mp hsaw with hold | hfinds
        · exact (letsGo_of_step hstep (h.rank_of_sawShutdown hold)).2
        · exact (step_of_findsShutdown hfinds hstep).2.ge

/-- Every trail has its shape. -/
theorem shaped_course (limit : Nat) (turns : List Turn) : Shaped ((start limit).course turns) := by
  induction turns using List.reverseRecOn with
  | nil => exact shaped_start limit
  | append_singleton turns t ih =>
    rw [course_append]
    exact ih.turn t

/-- After a report, or a shutdown that has been seen, a trail only tells of what is let go. -/
lemma letsGo_course (h : 2 ≤ l.rig.router.rank) (turns : List Turn) :
    (l.course turns).rig.sent = l.rig.sent ∧
      ∃ more, (l.course turns).acts = l.acts ++ more ∧ ∀ act ∈ more, act.isReport = false := by
  induction turns generalizing l with
  | nil => exact ⟨rfl, [], by simp [course], by simp⟩
  | cons t turns ih =>
    obtain ⟨hrank, hsent, hshown⟩ := letsGo_of_turn h t
    obtain ⟨hsent', more, hacts, hmore⟩ := ih (l := l.turn t) hrank
    refine ⟨hsent'.trans hsent, l.rig.shown t ++ more, ?_, ?_⟩
    · exact hacts.trans (List.append_assoc _ _ _)
    · intro act hmem
      rcases List.mem_append.mp hmem with hfirst | hrest
      · exact hshown act hfirst
      · exact hmore act hrest

/-- A trail has one report at most. -/
lemma Shaped.length_reports_le (h : Shaped l) : (l.acts.filter Act.isReport).length ≤ 1 := by
  obtain ⟨report?, -, -, hacts⟩ := h.acts_eq
  have hmessages : (l.rig.sent.map Act.forward).filter Act.isReport = [] := by
    simp [List.filter_eq_nil_iff, Act.isReport]
  have hreleases : (Act.releases.take (l.rig.router.rank - 2)).filter Act.isReport = [] := by
    refine List.filter_eq_nil_iff.mpr fun act hmem => ?_
    simp [Act.isReport_of_releases hmem]
  have hone : report?.toList.length ≤ 1 := by cases report? <;> simp
  rw [hacts, List.filter_append, List.filter_append, hmessages, hreleases, List.nil_append,
    List.append_nil]
  exact (List.length_filter_le _ _).trans hone

/-- A trail tells of everything that the router has let go. -/
lemma Shaped.release_mem (h : Shaped l) (hdone : l.rig.router.isDone = true) (hold : Hold) :
    Act.release hold ∈ l.acts := by
  obtain ⟨report?, -, -, hacts⟩ := h.acts_eq
  have hrank : l.rig.router.rank = 5 := by
    simp only [isDone, decide_eq_true_eq] at hdone
    simp [rank, hdone]
  rw [hacts, hrank]
  refine List.mem_append_right _ ?_
  cases hold <;> simp [Act.releases]

/-- Once the router has seen a shutdown, there is no report. -/
lemma Shaped.isReport_of_sawShutdown (h : Shaped l) (hsaw : l.sawShutdown = true) :
    ∀ act ∈ l.acts, act.isReport = false := by
  have hreports := h.acts_eq
  obtain ⟨report?, -, hnone, hacts⟩ := hreports
  obtain rfl : report? = none := hnone (.inr hsaw)
  intro act hmem
  rw [hacts] at hmem
  simp only [Option.toList_none, List.append_nil, List.mem_append, List.mem_map] at hmem
  rcases hmem with ⟨message, -, rfl⟩ | htaken
  · rfl
  · exact Act.isReport_of_releases htaken

end Trail

/-! ### Courses that are cut short -/

/-- A rig beside another one that has not been shut down: the two agree in all else, or the first one only lets
go of things and has passed on no more than the second. -/
def InStep (cut rig : RouterRig) : Prop :=
  cut = { rig with isShutdown := true } ∨ 2 ≤ cut.router.rank ∧ cut.sent <+: rig.sent

/-- What the router shows does the same to a rig that is shut down. -/
lemma witness_shutdown (rig : RouterRig) (act : Act) :
    ({ rig with isShutdown := true } : RouterRig).witness act =
      { rig.witness act with isShutdown := true } := by
  cases act with
  | post failure? => cases hlistener : rig.hasListener <;> simp [witness, hlistener]
  | release hold => cases hold <;> rfl
  | inner | forward | deliver => rfl

/-- A turn keeps two rigs in step. -/
lemma InStep.turn {cut rig : RouterRig} (h : InStep cut rig) (t : Turn) :
    InStep (cut.turn t) (rig.turn t) := by
  rcases h with rfl | ⟨hrank, hsent⟩
  · cases t with
    | event e =>
      left
      cases e with
      | arrival a =>
        simp only [RouterRig.turn, apply_arrival]
        split <;> rfl
      | shutdown | dropNotices | dropResult => rfl
    | router =>
      by_cases hphase : rig.router.phase = .waiting
      · -- The first router sees the shutdown here.
        right
        let r : Router := { rig.router with phase := .releasing .stdout }
        have hstep : rig.router.step true rig.stdout = some { router := r, stdout := rig.stdout } := by
          simp [Router.step, hphase, r]
        have hturn : ({ rig with isShutdown := true } : RouterRig).turn .router =
            { rig with isShutdown := true, router := r } := by
          simp [RouterRig.turn, step, hstep, witness]
        rw [hturn]
        exact ⟨le_refl 2, rig.sent_prefix_turn .router⟩
      · left
        have hsame := step_congr hphase true rig.isShutdown rig.stdout
        cases hstep : rig.router.step rig.isShutdown rig.stdout with
        | none => simp [RouterRig.turn, step, hsame, hstep]
        | some m =>
          have hwitness := witness_shutdown { rig with router := m.router, stdout := m.stdout } m.act
          simpa [RouterRig.turn, step, hsame, hstep] using hwitness
  · right
    obtain ⟨hrank', hsent', -⟩ := letsGo_of_turn hrank t
    rw [hsent']
    exact ⟨hrank', hsent.trans (rig.sent_prefix_turn t)⟩

/-- A shutdown that is put into a course cuts short what is passed on. -/
theorem sent_prefix_of_shutdown (limit : Nat) (before after : List Turn) :
    ((start limit).course (before ++ .event .shutdown :: after)).sent <+:
      ((start limit).course (before ++ after)).sent := by
  have hinStep : InStep ((start limit).course (before ++ .event .shutdown :: after))
      ((start limit).course (before ++ after)) := by
    rw [course_append, course_append]
    generalize (start limit).course before = rig
    change InStep ((rig.turn (.event .shutdown)).course after) (rig.course after)
    have hfirst : InStep (rig.turn (.event .shutdown)) rig := .inl rfl
    generalize rig.turn (.event .shutdown) = cut at hfirst
    induction after generalizing cut rig with
    | nil => exact hfirst
    | cons t after ih => exact ih _ _ (hfirst.turn t)
  rcases hinStep with hsame | ⟨-, hsent⟩
  · rw [hsame]
    exact List.prefix_rfl
  · exact hsent

@[simp] lemma isShutdown_witness (rig : RouterRig) (act : Act) :
    (rig.witness act).isShutdown = rig.isShutdown := by
  unfold witness
  split <;> first | rfl | (split <;> rfl)

/-- A router that is about to report has passed on all messages of its stream. -/
lemma concluded_of_rank {limit : Nat} {arrived : List Arrival} {messages : List Bytes} {r : Router}
    {s : Source} (h : r.Follows limit arrived messages s) (hrank : r.rank = 1) :
    ∃ failure?, Concluded limit arrived messages (.reported failure?) := by
  unfold Router.Follows at h
  cases hphase : r.phase with
  | posting failure? =>
    simp only [hphase] at h
    exact ⟨failure?, h⟩
  | releasing hold => cases hold <;> simp [rank, hphase] at hrank
  | waiting | taking | done => simp [rank, hphase] at hrank

/-- Unless it is shut down, a router that has come to a verdict has passed on all messages of its stream. -/
lemma concluded_course (limit : Nat) (turns : List Turn)
    (hshut : ((start limit).course turns).isShutdown = false)
    (hrank : 1 ≤ ((start limit).course turns).router.rank) :
    ∃ v, Concluded limit (arrivals turns) ((start limit).course turns).sent v := by
  induction turns using List.reverseRecOn with
  | nil => simp [course, start, Router.start, rank] at hrank
  | append_singleton turns t ih =>
    have hkeeps := keeps_course limit turns
    rw [course_append] at hshut hrank ⊢
    rw [arrivals_concat]
    generalize (start limit).course turns = rig at ih hkeeps hshut hrank ⊢
    change (rig.turn t).isShutdown = false at hshut
    change 1 ≤ (rig.turn t).router.rank at hrank
    change ∃ v, Concluded limit _ (rig.turn t).sent v
    cases t with
    | event e =>
      obtain ⟨hsent, hrouter⟩ := rig.sent_apply e
      change 1 ≤ (rig.apply e).router.rank at hrank
      change ∃ v, Concluded limit _ (rig.apply e).sent v
      rw [hrouter] at hrank
      have hopen : rig.isShutdown = false := by
        cases e with
        | arrival a =>
          simp only [RouterRig.turn, apply_arrival] at hshut
          split at hshut <;> exact hshut
        | shutdown => simp [RouterRig.turn, RouterRig.apply] at hshut
        | dropNotices | dropResult => exact hshut
      obtain ⟨v, hv⟩ := ih hopen hrank
      rw [hsent]
      exact ⟨v, hv.append _⟩
    | router =>
      rw [show Turn.router.arrival?.toList = [] from rfl, List.append_nil]
      cases hstep : rig.router.step rig.isShutdown rig.stdout with
      | none =>
        rw [(turn_of_rest hstep).1] at hshut hrank ⊢
        exact ih hshut hrank
      | some m =>
        rw [(turn_of_step hstep).1] at hshut hrank ⊢
        have hfollows := hkeeps.follows.step hstep
        have hspans := rank_of_step hstep
        rw [isShutdown_witness] at hshut
        rw [witness_router] at hrank
        change rig.isShutdown = false at hshut
        change 1 ≤ m.router.rank at hrank
        rw [sent_witness]
        change ∃ v, Concluded limit (arrivals turns) (rig.sent ++ m.act.message?.toList) v
        cases hact : m.act with
        | inner =>
          rw [Move.Follows, hact] at hfollows
          rw [hact] at hspans
          have hposting : m.router.rank = 1 := by
            rcases hspans.2 with hle | ⟨hshut', -⟩
            · omega
            · exact absurd (hshut.symm.trans hshut') (by simp)
          obtain ⟨failure?, hconcluded⟩ := concluded_of_rank hfollows hposting
          exact ⟨_, by simpa [Act.message?] using hconcluded⟩
        | forward message =>
          rw [hact] at hspans
          have := hspans.2
          omega
        | deliver path =>
          rw [Move.Follows, hact] at hfollows
          exact ⟨_, by simpa [Act.message?] using hfollows.1⟩
        | post failure? =>
          rw [Move.Follows, hact] at hfollows
          exact ⟨_, by simpa [Act.message?] using hfollows.1⟩
        | release hold =>
          rw [hact] at hspans
          obtain ⟨v, hv⟩ := ih hshut (by cases hold <;> have := hspans.1 <;> omega)
          exact ⟨v, by simpa [Act.message?] using hv⟩

/-- A router that is not shut down and can do nothing more has passed on all messages of its stream. -/
theorem sent_of_standstill (limit : Nat) (turns : List Turn)
    (hshut : ((start limit).course turns).isShutdown = false)
    (hstep : ((start limit).course turns).step = none) :
    ((start limit).course turns).sent = messages limit (readable (arrivals turns)) := by
  have hfollows := (keeps_course limit turns).follows
  rcases standstill hstep hshut with hdone | ⟨hwaiting, hsearched, hempty⟩
  · have hrank : ((start limit).course turns).router.rank = 5 := by simp [rank, hdone]
    obtain ⟨v, hv⟩ := concluded_course limit turns hshut (by omega)
    exact hv.messages_eq.symm
  · unfold Follows at hfollows
    simp only [hwaiting] at hfollows
    obtain ⟨hclean, hshort⟩ := hfollows.fragment hsearched
    obtain ⟨hnone, -⟩ := reading_of_fragment hclean hshort none
    have hreadable : readable ((start limit).course turns).stdout.arrivals = [] := by
      rw [hempty]
      rfl
    rw [hfollows.messages_eq, hreadable, List.append_nil, hnone, List.append_nil]

/-- What is to be seen of a router, whatever happens around it and whenever it has its turns.  It reports once
at most, so that there is never a path beside a notice.  When it is done it has let go of everything, and
passes nothing on any more.  All that it passes on are plain lines within the limit.  A shutdown that is put
anywhere into the course only cuts short what is passed on, also beside a course in which the router has its
turns at other times, and when the router has seen it, nothing is passed on or reported any more. -/
theorem trail_of_course (limit : Nat) (turns : List Turn) :
    let l := (Trail.start limit).course turns
    l.rig = (start limit).course turns ∧
      ((l.acts.filter Act.isReport).length ≤ 1 ∧ l.rig.notices.length ≤ 1 ∧
        ∀ path, l.rig.slot = .full path → l.rig.notices = []) ∧
      (l.rig.router.isDone = true → l.rig.isStdoutClosed = true ∧ l.rig.slot ≠ .vacant ∧
        (∀ hold, Act.release hold ∈ l.acts) ∧ ∀ more, (l.course more).rig.sent = l.rig.sent) ∧
      (∀ message ∈ l.rig.sent, Bytes.newline ∉ message ∧ FiveTuple.isMarked message = false ∧
        message.length ≤ limit) ∧
      (∀ before after, turns = before ++ after →
        ((start limit).course (before ++ .event .shutdown :: after)).sent <+: l.rig.sent) ∧
      (∀ turns', arrivals turns' = arrivals turns →
        ((start limit).course turns').isShutdown = false → ((start limit).course turns').step = none →
          l.rig.sent <+: ((start limit).course turns').sent) ∧
      (l.sawShutdown = true → ∀ more, let l' := l.course more
        l'.rig.sent = l.rig.sent ∧ l'.rig.notices = [] ∧ (∀ path, l'.rig.slot ≠ .full path) ∧
          ∀ act ∈ l'.acts, act.isReport = false) := by
  intro l
  have hrig : l.rig = (start limit).course turns := Trail.rig_course _ turns
  have hshaped : l.Shaped := Trail.shaped_course limit turns
  have hkeeps : Keeps limit (arrivals turns) l.rig := hrig ▸ keeps_course limit turns
  have hsent : l.rig.sent <+: messages limit (readable (arrivals turns)) := hkeeps.follows.sent_prefix
  refine ⟨hrig, ⟨hshaped.length_reports_le, ?_, ?_⟩, ?_, ?_, ?_, ?_, ?_⟩
  · cases hnotices : l.rig.noticesRev with
    | nil => simp [notices, hnotices]
    | cons n rest =>
      have hone := (hkeeps.of_notice n (by simp [hnotices])).2.1
      simp [notices, hone]
  · intro path hpath
    simp [notices, (hkeeps.of_full path hpath).2.1]
  · intro hdone
    have hrank : l.rig.router.rank = 5 := by
      simp only [isDone, decide_eq_true_eq] at hdone
      simp [rank, hdone]
    refine ⟨hshaped.closed_of_rank (by omega), ?_, hshaped.release_mem hdone, ?_⟩
    · intro hvacant
      have := hkeeps.rank_of_vacant hvacant
      omega
    · exact fun more => (Trail.letsGo_course (by omega) more).1
  · exact fun message hmem => plain_of_mem_messages (hsent.subset hmem)
  · rintro before after rfl
    rw [hrig]
    exact sent_prefix_of_shutdown limit before after
  · intro turns' harrivals hshut hstep
    rw [sent_of_standstill limit turns' hshut hstep, harrivals]
    exact hsent
  · intro hsaw more l'
    have hshaped' : l'.Shaped := by
      have hcourse : l' = (Trail.start limit).course (turns ++ more) := (Trail.course_append ..).symm
      rw [hcourse]
      exact Trail.shaped_course limit (turns ++ more)
    obtain ⟨hsent', later, hacts, hlater⟩ := Trail.letsGo_course (hshaped.rank_of_sawShutdown hsaw) more
    have hsilent : ∀ act ∈ l'.acts, act.isReport = false := by
      intro act hmem
      rw [hacts] at hmem
      rcases List.mem_append.mp hmem with hold | hnew
      · exact hshaped.isReport_of_sawShutdown hsaw act hold
      · exact hlater act hnew
    refine ⟨hsent', ?_, ?_, hsilent⟩
    · rw [notices, List.reverse_eq_nil_iff, List.eq_nil_iff_forall_not_mem]
      intro n hn
      have := hsilent _ (hshaped'.of_notice n hn)
      simp [Act.isReport] at this
    · intro path hpath
      have := hsilent _ (hshaped'.of_full path hpath)
      simp [Act.isReport] at this

/-- Two lines have arrived and the first one has been passed on when the session is shut down: the second one
is still passed on without the shutdown, and with it never. -/
theorem trail_of_cut_course :
    let before : List Turn :=
      [.event (.arrival (.data (Bytes.ofText "a\nb\n"))), .router, .router, .router]
    let after : List Turn := List.replicate 5 .router
    let whole := (start 8).course (before ++ after)
    let l := (Trail.start 8).course (before ++ .event .shutdown :: after)
    (l.sawShutdown = true ∧ l.rig.router.isDone = true ∧ l.rig.sent = [Bytes.ofText "a"]) ∧
      (whole.isShutdown = false ∧ whole.step = none ∧ whole.sent = [Bytes.ofText "a", Bytes.ofText "b"]) ∧
      l.rig.isStdoutClosed = true ∧ l.rig.slot ≠ .vacant ∧ l.rig.sent <+: whole.sent ∧
      (∀ more, (l.course more).rig.sent = [Bytes.ofText "a"] ∧ (l.course more).rig.notices = []) ∧
      ((Trail.start 8).course (before ++ after)).rig = whole := by
  intro before after whole l
  have hsaw : l.sawShutdown = true := by decide +kernel
  have hdone : l.rig.router.isDone = true := by decide +kernel
  have hsent : l.rig.sent = [Bytes.ofText "a"] := by decide +kernel
  have hopen : whole.isShutdown = false := by decide +kernel
  have hrest : whole.step.isNone = true := by decide +kernel
  have hrest : whole.step = none := Option.isNone_iff_eq_none.mp hrest
  obtain ⟨-, -, hend, -, -, hwhole, hcut⟩ :=
    trail_of_course 8 (before ++ .event .shutdown :: after)
  obtain ⟨hclosed, hslot, -, -⟩ := hend hdone
  refine ⟨⟨hsaw, hdone, hsent⟩, ⟨hopen, hrest, by decide +kernel⟩, hclosed, hslot,
    hwhole (before ++ after) (by decide) hopen hrest, fun more => ?_, (trail_of_course 8 (before ++ after)).1⟩
  obtain ⟨hsame, hsilent, -⟩ := hcut hsaw more
  exact ⟨hsame.trans hsent, hsilent⟩

end RouterRig
end Traversal
