import Mathlib
import Traversal.Proofs.Router
import Traversal.Rig.Router

/-!
# Courses of a router

A course of a router by itself is any order of turns: something happens around it, or it takes a step.
`Keeps` is the invariant of all courses.  It joins the relation of the router to its stream with what the
surroundings know: the slot, the notices, and whether the stream has been let go.

If nothing but arrivals happens around the router, letting it run to a standstill gives exactly what
reading the whole stream at once gives (`run_course_eq_reading`), however the stream was cut into pieces
and whenever the router had its turns.
-/

namespace Traversal

namespace Slot

/-- Only a vacant slot changes when its receiver goes away. -/
lemma abandon_cases (slot : Slot) :
    slot.abandon = slot ∨ slot = vacant ∧ slot.abandon = abandoned := by
  cases slot <;> simp [abandon]

/-- Only a vacant slot changes when the router goes away. -/
lemma release_cases (slot : Slot) :
    slot.release = slot ∧ slot ≠ vacant ∨ slot = vacant ∧ slot.release = closed := by
  cases slot <;> simp [release]

/-- A path only gets into a vacant slot. -/
lemma deliver_cases (slot : Slot) (t : FiveTuple) :
    slot.deliver t = slot ∧ slot ≠ vacant ∨ slot = vacant ∧ slot.deliver t = full t := by
  cases slot <;> simp [deliver]

/-- What a slot is after its receiver has gone away, it was before, unless it has been abandoned. -/
lemma eq_of_abandon {slot other : Slot} (h : slot.abandon = other) (hother : other ≠ abandoned) :
    slot = other := by
  rcases slot.abandon_cases with hsame | ⟨-, habandoned⟩
  · exact hsame ▸ h
  · exact absurd (h.symm.trans habandoned) hother

end Slot

namespace RouterRig

open Router Arrival

/-- One turn of a course. -/
inductive Turn
  | event (event : Event)
  /-- The router takes a step, if it can. -/
  | router
deriving DecidableEq, Repr

/-- What arrives on the stream in a turn. -/
def Turn.arrival? : Turn → Option Arrival
  | event (.arrival a) => some a
  | _ => none

/-- What arrives on the stream in a course. -/
def arrivals (turns : List Turn) : List Arrival :=
  turns.filterMap Turn.arrival?

/-- What arrives in a last turn comes behind all that has arrived. -/
lemma arrivals_concat (turns : List Turn) (t : Turn) :
    arrivals (turns ++ [t]) = arrivals turns ++ t.arrival?.toList := by
  unfold arrivals
  rw [List.filterMap_append]
  cases h : t.arrival? <;> simp [h]

/-- A rig after a turn. -/
def turn (rig : RouterRig) : Turn → RouterRig
  | .event e => rig.apply e
  | .router => rig.step.getD rig

/-- A rig after a course. -/
def course (rig : RouterRig) (turns : List Turn) : RouterRig :=
  turns.foldl turn rig

/-- The messages passed on, in order. -/
def sent (rig : RouterRig) : List Bytes :=
  rig.sentRev.reverse

/-- The notices, in order. -/
def notices (rig : RouterRig) : List Notice :=
  rig.noticesRev.reverse

@[simp] lemma witness_router (rig : RouterRig) (act : Act) : (rig.witness act).router = rig.router := by
  unfold witness
  split <;> first | rfl | (split <;> rfl)

@[simp] lemma witness_stdout (rig : RouterRig) (act : Act) : (rig.witness act).stdout = rig.stdout := by
  unfold witness
  split <;> first | rfl | (split <;> rfl)

/-- What arrives reaches the router unless it has let go of the stream. -/
lemma apply_arrival (rig : RouterRig) (a : Arrival) : rig.apply (.arrival a) =
    if rig.isStdoutClosed then rig else { rig with stdout := rig.stdout.arrive a } := rfl

@[simp] lemma course_append (rig : RouterRig) (before after : List Turn) :
    rig.course (before ++ after) = (rig.course before).course after :=
  List.foldl_append

/-! ### The invariant -/

/-- What holds of a rig after any course in which this has arrived on the stream. -/
structure Keeps (limit : Nat) (arrived : List Arrival) (rig : RouterRig) : Prop where
  follows : rig.router.Follows limit arrived rig.sent rig.stdout
  rank_of_isStdoutClosed : rig.isStdoutClosed = true → 3 ≤ rig.router.rank
  /-- A result is the verdict of the stream, and the last thing to be heard. -/
  of_full : ∀ t, rig.slot = .full t →
    Concluded limit arrived rig.sent (.connected t) ∧ rig.noticesRev = [] ∧ 2 ≤ rig.router.rank
  /-- So is a notice. -/
  of_notice : ∀ n ∈ rig.noticesRev,
    Concluded limit arrived rig.sent (.reported n.failure?) ∧ rig.noticesRev = [n] ∧
      n.activity = .router ∧ 2 ≤ rig.router.rank
  rank_of_closed : rig.slot = .closed → rig.router.rank = 5
  rank_of_vacant : rig.slot = .vacant → rig.router.rank ≤ 4
  /-- A router does not end without a word, unless it is told to or nobody listens. -/
  heard : 2 ≤ rig.router.rank → rig.isShutdown = false → rig.hasListener = true →
    rig.slot ≠ .abandoned → (∃ t, rig.slot = .full t) ∨ rig.noticesRev ≠ []

/-- The invariant holds at the start. -/
lemma keeps_start (limit : Nat) : Keeps limit [] (start limit) where
  follows := follows_start limit
  rank_of_isStdoutClosed := by simp [start]
  of_full := by simp [start]
  of_notice := by simp [start]
  rank_of_closed := by simp [start]
  rank_of_vacant := by simp [start, Router.start, rank]
  heard := by simp [start, Router.start, rank]

/-- Whatever happens around a router keeps the invariant. -/
lemma Keeps.apply {limit : Nat} {arrived : List Arrival} {rig : RouterRig}
    (h : Keeps limit arrived rig) (e : Event) :
    Keeps limit (arrived ++ (Turn.event e).arrival?.toList) (rig.apply e) := by
  cases e with
  | arrival a =>
    have hfull : ∀ t, rig.slot = .full t →
        Concluded limit (arrived ++ [a]) rig.sent (.connected t) ∧ rig.noticesRev = [] ∧
          2 ≤ rig.router.rank := fun t ht => ⟨(h.of_full t ht).1.append [a], (h.of_full t ht).2⟩
    have hnotice : ∀ n ∈ rig.noticesRev,
        Concluded limit (arrived ++ [a]) rig.sent (.reported n.failure?) ∧ rig.noticesRev = [n] ∧
          n.activity = .router ∧ 2 ≤ rig.router.rank :=
      fun n hn => ⟨(h.of_notice n hn).1.append [a], (h.of_notice n hn).2⟩
    change Keeps limit (arrived ++ [a]) (rig.apply (.arrival a))
    rw [apply_arrival]
    by_cases hclosed : rig.isStdoutClosed = true
    · rw [if_pos hclosed]
      -- What arrives is lost, but the router is past reading.
      have hrank := h.rank_of_isStdoutClosed hclosed
      exact { h with
        follows := h.follows.append_of_rank (by omega) [a] _
        of_full := hfull
        of_notice := hnotice }
    · rw [if_neg hclosed]
      exact { h with
        follows := h.follows.arrive a
        of_full := hfull
        of_notice := hnotice }
  | shutdown =>
    rw [show (Turn.event .shutdown).arrival?.toList = [] from rfl, List.append_nil]
    exact { h with heard := fun _ hshut => absurd hshut (by simp [RouterRig.apply]) }
  | dropNotices =>
    rw [show (Turn.event .dropNotices).arrival?.toList = [] from rfl, List.append_nil]
    exact { h with heard := fun _ _ hlistener => absurd hlistener (by simp [RouterRig.apply]) }
  | dropResult =>
    rw [show (Turn.event .dropResult).arrival?.toList = [] from rfl, List.append_nil]
    change Keeps limit arrived { rig with slot := rig.slot.abandon }
    rcases rig.slot.abandon_cases with hsame | ⟨-, habandoned⟩
    · rw [hsame]
      exact h
    · rw [habandoned]
      exact { h with
        of_full := by simp
        rank_of_closed := by simp
        rank_of_vacant := by simp
        heard := by simp }

/-- As long as the router is reading, nothing has been let go and nothing has been heard of it. -/
lemma Keeps.quiet {limit : Nat} {arrived : List Arrival} {rig : RouterRig}
    (h : Keeps limit arrived rig) (hr : rig.router.rank < 2) :
    rig.isStdoutClosed = false ∧ rig.noticesRev = [] ∧
      (rig.slot = .vacant ∨ rig.slot = .abandoned) := by
  refine ⟨?_, ?_, ?_⟩
  · by_contra hclosed
    have := h.rank_of_isStdoutClosed (by simpa using hclosed)
    omega
  · refine List.eq_nil_iff_forall_not_mem.mpr fun n hn => ?_
    have := (h.of_notice n hn).2.2.2
    omega
  · cases hslot : rig.slot with
    | vacant => exact .inl rfl
    | full t =>
      have := (h.of_full t hslot).2.2
      omega
    | closed =>
      have := h.rank_of_closed hslot
      omega
    | abandoned => exact .inr rfl

/-- A step that nobody notices keeps the invariant. -/
lemma Keeps.inner {limit : Nat} {arrived : List Arrival} {rig : RouterRig} {r : Router} {s : Source}
    (h : Keeps limit arrived rig) (hfollows : r.Follows limit arrived rig.sent s)
    (hbefore : rig.router.rank = 0)
    (hafter : r.rank ≤ 1 ∨ rig.isShutdown = true ∧ r.rank = 2) :
    Keeps limit arrived { rig with router := r, stdout := s } := by
  obtain ⟨hopen, hnone, hslot⟩ := h.quiet (by omega)
  exact
    { follows := hfollows
      rank_of_isStdoutClosed := fun hc => by simp [hopen] at hc
      of_full := fun t ht => by rcases hslot with hs | hs <;> simp [hs] at ht
      of_notice := fun n hn => by simp [hnone] at hn
      rank_of_closed := fun hc => by rcases hslot with hs | hs <;> simp [hs] at hc
      rank_of_vacant := fun _ => show r.rank ≤ 4 by omega
      heard := fun hr hshut => by
        rcases hafter with hle | ⟨hshut', -⟩
        · exact absurd (show 2 ≤ r.rank from hr) (by omega)
        · exact absurd hshut' (by simpa using hshut) }

/-- Passing on a message keeps the invariant. -/
lemma Keeps.forward {limit : Nat} {arrived : List Arrival} {rig : RouterRig} {r : Router}
    {s : Source} {message : Bytes} (h : Keeps limit arrived rig)
    (hfollows : r.Follows limit arrived (rig.sent ++ [message]) s)
    (hbefore : rig.router.rank = 0) (hafter : r.rank = 0) :
    Keeps limit arrived
      { rig with router := r, stdout := s, sentRev := message :: rig.sentRev } := by
  obtain ⟨hopen, hnone, hslot⟩ := h.quiet (by omega)
  exact
    { follows := by simpa [sent] using hfollows
      rank_of_isStdoutClosed := fun hc => by simp [hopen] at hc
      of_full := fun t ht => by rcases hslot with hs | hs <;> simp [hs] at ht
      of_notice := fun n hn => by simp [hnone] at hn
      rank_of_closed := fun hc => by rcases hslot with hs | hs <;> simp [hs] at hc
      rank_of_vacant := fun _ => show r.rank ≤ 4 by omega
      heard := fun hr => absurd (show 2 ≤ r.rank from hr) (by omega) }

/-- Delivering the verdict keeps the invariant. -/
lemma Keeps.deliver {limit : Nat} {arrived : List Arrival} {rig : RouterRig} {r : Router}
    {s : Source} {t : FiveTuple} (h : Keeps limit arrived rig)
    (hconcluded : Concluded limit arrived rig.sent (.connected t))
    (hfollows : r.Follows limit arrived rig.sent s)
    (hbefore : rig.router.rank = 0) (hafter : r.rank = 2) :
    Keeps limit arrived { rig with router := r, stdout := s, slot := rig.slot.deliver t } := by
  obtain ⟨hopen, hnone, -⟩ := h.quiet (by omega)
  have hslot := (h.quiet (by omega)).2.2
  exact
    { follows := hfollows
      rank_of_isStdoutClosed := fun hc => by simp [hopen] at hc
      of_full := fun t' ht' => by
        rcases hslot with hs | hs <;> simp only [hs, Slot.deliver] at ht'
        · cases ht'
          exact ⟨hconcluded, hnone, hafter.ge⟩
        · cases ht'
      of_notice := fun n hn => by simp [hnone] at hn
      rank_of_closed := fun hc => by
        rcases hslot with hs | hs <;> simp [hs, Slot.deliver] at hc
      rank_of_vacant := fun _ => show r.rank ≤ 4 by omega
      heard := fun _ _ _ hne => by
        rcases hslot with hs | hs <;> simp [hs, Slot.deliver] at hne ⊢ }

/-- Reporting the verdict keeps the invariant. -/
lemma Keeps.post {limit : Nat} {arrived : List Arrival} {rig : RouterRig} {r : Router} {s : Source}
    {failure? : Option Failure} (h : Keeps limit arrived rig)
    (hconcluded : Concluded limit arrived rig.sent (.reported failure?))
    (hfollows : r.Follows limit arrived rig.sent s)
    (hbefore : rig.router.rank = 1) (hafter : r.rank = 2) :
    Keeps limit arrived
      ({ rig with router := r, stdout := s }.witness (.post failure?)) := by
  obtain ⟨hopen, hnone, hslot⟩ := h.quiet (by omega)
  have hquiet : ∀ t, rig.slot ≠ .full t := by
    rcases hslot with hs | hs <;> simp [hs]
  have hclosed : rig.slot ≠ .closed := by
    rcases hslot with hs | hs <;> simp [hs]
  unfold witness
  by_cases hlistener : rig.hasListener = true
  · simp only [hlistener, if_true]
    exact
      { follows := hfollows
        rank_of_isStdoutClosed := fun hc => by simp [hopen] at hc
        of_full := fun t ht => absurd ht (hquiet t)
        of_notice := fun n hn => by
          have hn' : n = ⟨.router, failure?⟩ := by simpa [hnone] using hn
          subst hn'
          exact ⟨hconcluded, by simp [hnone], rfl, hafter.ge⟩
        rank_of_closed := fun hc => absurd hc hclosed
        rank_of_vacant := fun _ => show r.rank ≤ 4 by omega
        heard := fun _ _ _ _ => .inr (by simp) }
  · rw [Bool.not_eq_true] at hlistener
    simp only [hlistener, Bool.false_eq_true, if_false]
    exact
      { follows := hfollows
        rank_of_isStdoutClosed := fun hc => by simp [hopen] at hc
        of_full := fun t ht => absurd ht (hquiet t)
        of_notice := fun n hn => by simp [hnone] at hn
        rank_of_closed := fun hc => absurd hc hclosed
        rank_of_vacant := fun _ => show r.rank ≤ 4 by omega
        heard := fun _ _ hl => by simp at hl }

/-- Letting go of the stream, or of the way to report, keeps the invariant. -/
lemma Keeps.recede {limit : Nat} {arrived : List Arrival} {rig : RouterRig} {r : Router}
    {s : Source} {isClosed : Bool} (h : Keeps limit arrived rig)
    (hfollows : r.Follows limit arrived rig.sent s)
    (hbefore : 2 ≤ rig.router.rank) (hle : rig.router.rank ≤ r.rank) (hafter : r.rank ≤ 4)
    (hclosed : isClosed = true → 3 ≤ r.rank) :
    Keeps limit arrived { rig with router := r, stdout := s, isStdoutClosed := isClosed } where
  follows := hfollows
  rank_of_isStdoutClosed := hclosed
  of_full t ht := ⟨(h.of_full t ht).1, (h.of_full t ht).2.1, hbefore.trans hle⟩
  of_notice n hn :=
    ⟨(h.of_notice n hn).1, (h.of_notice n hn).2.1, (h.of_notice n hn).2.2.1, hbefore.trans hle⟩
  rank_of_closed hc := by
    have := h.rank_of_closed hc
    omega
  rank_of_vacant _ := hafter
  heard _ := h.heard hbefore

/-- Letting go of the slot keeps the invariant. -/
lemma Keeps.close {limit : Nat} {arrived : List Arrival} {rig : RouterRig} {r : Router} {s : Source}
    (h : Keeps limit arrived rig) (hfollows : r.Follows limit arrived rig.sent s)
    (hbefore : rig.router.rank = 4) (hafter : r.rank = 5) :
    Keeps limit arrived { rig with router := r, stdout := s, slot := rig.slot.release } where
  follows := hfollows
  rank_of_isStdoutClosed _ := by
    change 3 ≤ r.rank
    omega
  of_full t ht := by
    rcases rig.slot.release_cases with ⟨hsame, -⟩ | ⟨-, hclosed⟩
    · obtain ⟨hconcluded, hnone, -⟩ := h.of_full t (hsame ▸ ht)
      exact ⟨hconcluded, hnone, show 2 ≤ r.rank by omega⟩
    · simp [hclosed] at ht
  of_notice n hn :=
    ⟨(h.of_notice n hn).1, (h.of_notice n hn).2.1, (h.of_notice n hn).2.2.1,
      show 2 ≤ r.rank by omega⟩
  rank_of_closed _ := hafter
  rank_of_vacant hv := by
    rcases rig.slot.release_cases with ⟨hsame, hne⟩ | ⟨-, hclosed⟩
    · exact absurd (hsame ▸ hv) hne
    · simp [hclosed] at hv
  heard _ hshut hlistener hne := by
    rcases rig.slot.release_cases with ⟨hsame, -⟩ | ⟨hvacant, hclosed⟩
    · simp only [hsame] at hne ⊢
      exact h.heard (by omega) hshut hlistener hne
    · refine .inr ?_
      rcases h.heard (by omega) hshut hlistener (by simp [hvacant]) with ⟨t, ht⟩ | hnotice
      · simp [hvacant] at ht
      · exact hnotice

/-- A step of the router keeps the invariant. -/
lemma Keeps.step {limit : Nat} {arrived : List Arrival} {rig rig' : RouterRig}
    (h : Keeps limit arrived rig) (hstep : rig.step = some rig') : Keeps limit arrived rig' := by
  unfold RouterRig.step at hstep
  obtain ⟨⟨r, s, act⟩, hmove, rfl⟩ := Option.map_eq_some_iff.mp hstep
  have hfollows := h.follows.step hmove
  have hrank := rank_of_step hmove
  cases act with
  | inner => exact h.inner hfollows hrank.1 hrank.2
  | forward message => exact h.forward hfollows hrank.1 hrank.2
  | deliver t => exact h.deliver hfollows.1 hfollows.2 hrank.1 hrank.2
  | post failure? => exact h.post hfollows.1 hfollows.2 hrank.1 hrank.2
  | release hold =>
    have hfollows : r.Follows limit arrived rig.sent s := hfollows
    cases hold with
    | stdout =>
      obtain ⟨hbefore, hafter⟩ : rig.router.rank = 2 ∧ r.rank = 3 := hrank
      have hle : rig.router.rank ≤ r.rank ∧ r.rank ≤ 4 := by omega
      exact h.recede hfollows hbefore.ge hle.1 hle.2 fun _ => hafter.ge
    | notices =>
      obtain ⟨hbefore, hafter⟩ : rig.router.rank = 3 ∧ r.rank = 4 := hrank
      have hle : rig.router.rank ≤ r.rank ∧ 3 ≤ r.rank := by omega
      exact h.recede hfollows (by omega) hle.1 hafter.le fun _ => hle.2
    | slot => exact h.close hfollows hrank.1 hrank.2

/-- A turn keeps the invariant. -/
lemma Keeps.turn {limit : Nat} {arrived : List Arrival} {rig : RouterRig}
    (h : Keeps limit arrived rig) (t : Turn) :
    Keeps limit (arrived ++ t.arrival?.toList) (rig.turn t) := by
  cases t with
  | event e => exact h.apply e
  | router =>
    rw [show Turn.router.arrival?.toList = [] from rfl, List.append_nil]
    unfold RouterRig.turn
    cases hstep : rig.step with
    | none => exact h
    | some rig' => exact h.step hstep

/-- The invariant holds after every course. -/
theorem keeps_course (limit : Nat) (turns : List Turn) :
    Keeps limit (arrivals turns) ((start limit).course turns) := by
  induction turns using List.reverseRecOn with
  | nil => exact keeps_start limit
  | append_singleton turns t ih =>
    rw [course_append, arrivals_concat]
    exact ih.turn t

/-! ### Running to a standstill -/

/-- Running is a course in which nothing happens around the router. -/
lemma runFor_eq_course (n : Nat) (rig : RouterRig) :
    runFor n rig = rig.course (List.replicate n .router) := by
  induction n generalizing rig with
  | zero => rfl
  | succ n ih =>
    cases hstep : rig.step with
    | none =>
      have hstill : ∀ k, rig.course (List.replicate k .router) = rig := by
        intro k
        induction k with
        | zero => rfl
        | succ k ihk => simpa [course, List.replicate_succ, turn, hstep] using ihk
      rw [runFor, hstep, hstill]
    | some rig' =>
      rw [runFor, hstep]
      simpa [course, List.replicate_succ, turn, hstep] using ih rig'

/-- A step of a rig takes from the work of its router. -/
lemma work_lt_of_step {rig rig' : RouterRig} (h : rig.step = some rig') :
    rig'.router.work rig'.stdout < rig.router.work rig.stdout := by
  unfold RouterRig.step at h
  obtain ⟨move, hmove, rfl⟩ := Option.map_eq_some_iff.mp h
  simpa using Router.work_lt_of_step hmove

/-- With as many steps as there is work, the router comes to a standstill. -/
lemma step_runFor_eq_none {n : Nat} {rig : RouterRig} (h : rig.router.work rig.stdout ≤ n) :
    (runFor n rig).step = none := by
  induction n generalizing rig with
  | zero =>
    cases hstep : rig.step with
    | none => exact hstep
    | some rig' =>
      have := work_lt_of_step hstep
      omega
  | succ n ih =>
    rw [runFor]
    cases hstep : rig.step with
    | none => exact hstep
    | some rig' =>
      have := work_lt_of_step hstep
      exact ih (by omega)

/-- A rig that runs comes to a standstill. -/
theorem step_run_eq_none (rig : RouterRig) : rig.run.step = none :=
  step_runFor_eq_none (le_refl _)

/-- A router that can do nothing more is done, or waits for its stream with nothing left to search. -/
lemma standstill {rig : RouterRig} (hstep : rig.step = none) (hshut : rig.isShutdown = false) :
    rig.router.phase = .done ∨
      rig.router.phase = .waiting ∧ rig.router.isReadable = false ∧ rig.stdout.arrivals = [] := by
  unfold RouterRig.step Router.step at hstep
  rw [Option.map_eq_none_iff] at hstep
  cases hphase : rig.router.phase with
  | waiting =>
    simp only [hphase, hshut, Bool.false_eq_true, if_false] at hstep
    split at hstep
    · cases hstep
    · next hready => simpa [Source.isReady] using hready
  | taking => simp [hphase] at hstep
  | posting failure? => simp [hphase] at hstep
  | releasing hold => simp [hphase] at hstep
  | done => exact .inl rfl

/-! ### The course of a stream -/

/-- What is to be seen of a router at a standstill, by the verdict of its stream. -/
def Shows (rig : RouterRig) : Verdict → Prop
  | .connected t => rig.router.isDone = true ∧ rig.slot = .full t ∧ rig.notices = []
  | .reported failure? =>
    rig.router.isDone = true ∧ rig.slot = .closed ∧ rig.notices = [⟨.router, failure?⟩]
  | .undecided => rig.router.isDone = false ∧ rig.slot = .vacant ∧ rig.notices = []

/-- Nothing but arrivals happens around the router. -/
def IsReading (turns : List Turn) : Prop :=
  ∀ e, Turn.event e ∈ turns → ∃ a, e = .arrival a

/-- While nothing but arrivals happens, nobody leaves and nobody tells the router to stop. -/
lemma attended_course {turns : List Turn} (h : IsReading turns) (limit : Nat) :
    ((start limit).course turns).isShutdown = false ∧
      ((start limit).course turns).hasListener = true ∧
      ((start limit).course turns).slot ≠ .abandoned := by
  induction turns using List.reverseRecOn with
  | nil => simp [course, start]
  | append_singleton turns t ih =>
    obtain ⟨hshut, hlistener, hslot⟩ := ih fun e he => h e (List.mem_append_left _ he)
    rw [course_append]
    generalize (start limit).course turns = rig at hshut hlistener hslot
    change (rig.turn t).isShutdown = false ∧ (rig.turn t).hasListener = true ∧
      (rig.turn t).slot ≠ .abandoned
    cases t with
    | event e =>
      obtain ⟨a, rfl⟩ := h e (by simp)
      change (rig.apply (.arrival a)).isShutdown = false ∧
        (rig.apply (.arrival a)).hasListener = true ∧ (rig.apply (.arrival a)).slot ≠ .abandoned
      rw [apply_arrival]
      split
      · exact ⟨hshut, hlistener, hslot⟩
      · exact ⟨hshut, hlistener, hslot⟩
    | router =>
      unfold turn
      cases hstep : rig.step with
      | none => exact ⟨hshut, hlistener, hslot⟩
      | some rig' =>
        unfold RouterRig.step at hstep
        obtain ⟨⟨r, s, act⟩, -, rfl⟩ := Option.map_eq_some_iff.mp hstep
        cases act with
        | inner => exact ⟨hshut, hlistener, hslot⟩
        | forward message => exact ⟨hshut, hlistener, hslot⟩
        | deliver t =>
          refine ⟨hshut, hlistener, ?_⟩
          rcases rig.slot.deliver_cases t with ⟨hsame, -⟩ | ⟨-, hfull⟩
          · simpa [witness, hsame] using hslot
          · simp [witness, hfull]
        | post failure? => simp [witness, hlistener, hshut, hslot]
        | release hold =>
          cases hold with
          | stdout => exact ⟨hshut, hlistener, hslot⟩
          | notices => exact ⟨hshut, hlistener, hslot⟩
          | slot =>
            refine ⟨hshut, hlistener, ?_⟩
            rcases rig.slot.release_cases with ⟨hsame, -⟩ | ⟨-, hclosed⟩
            · simpa [witness, hsame] using hslot
            · simp [witness, hclosed]

/-- An attended router at a standstill shows what reading the whole stream at once gives. -/
lemma Keeps.shows {limit : Nat} {arrived : List Arrival} {rig : RouterRig}
    (h : Keeps limit arrived rig) (hstep : rig.step = none) (hshut : rig.isShutdown = false)
    (hlistener : rig.hasListener = true) (hslot : rig.slot ≠ .abandoned) :
    rig.sent = messages limit (readable arrived) ∧
      rig.Shows (verdict limit (readable arrived) (ending? arrived)) := by
  rcases standstill hstep hshut with hdone | ⟨hwaiting, hsearched, hempty⟩
  · have hrank : rig.router.rank = 5 := by simp [rank, hdone]
    have hisDone : rig.router.isDone = true := by simp [isDone, hdone]
    rcases h.heard (by omega) hshut hlistener hslot with ⟨t, ht⟩ | hnotice
    · obtain ⟨hconcluded, hnone, -⟩ := h.of_full t ht
      rw [hconcluded.verdict_eq]
      exact ⟨hconcluded.messages_eq.symm, hisDone, ht, by simp [notices, hnone]⟩
    · obtain ⟨n, hn⟩ := List.exists_mem_of_ne_nil _ hnotice
      obtain ⟨hconcluded, hone, hactivity, -⟩ := h.of_notice n hn
      have hclosed : rig.slot = .closed := by
        cases hs : rig.slot with
        | vacant =>
          have := h.rank_of_vacant hs
          omega
        | full t =>
          have := (h.of_full t hs).2.1
          exact absurd this hnotice
        | closed => rfl
        | abandoned => exact absurd hs hslot
      rw [hconcluded.verdict_eq]
      refine ⟨hconcluded.messages_eq.symm, hisDone, hclosed, ?_⟩
      rw [notices, hone, ← hactivity]
      rfl
  · have hrank : rig.router.rank = 0 := by simp [rank, hwaiting]
    obtain ⟨-, hnone, hvacant⟩ := h.quiet (by omega)
    have hwork := h.follows
    unfold Follows at hwork
    simp only [hwaiting] at hwork
    obtain ⟨hclean, hshort⟩ := hwork.fragment hsearched
    obtain ⟨hmessages, hverdict⟩ := reading_of_fragment hclean hshort (ending? rig.stdout.arrivals)
    have hreadable : readable rig.stdout.arrivals = [] := by rw [hempty]; rfl
    have hending : ending? rig.stdout.arrivals = none := by rw [hempty]; rfl
    rw [hwork.messages_eq, hwork.verdict_eq, hreadable, List.append_nil, hmessages, hverdict,
      hending]
    refine ⟨(List.append_nil _).symm, by simp [isDone, hwaiting], ?_, by simp [notices, hnone]⟩
    exact hvacant.resolve_right hslot

/-- However a stream is cut into pieces, and whenever the router has its turns: letting the router run
comes to a standstill, and then it has passed on exactly the messages that the whole stream has when it
is read at once, and shows exactly the verdict of that reading. -/
theorem run_course_eq_reading (limit : Nat) (turns : List Turn) (h : IsReading turns) :
    let rig := ((start limit).course turns).run
    let bytes := readable (arrivals turns)
    rig.step = none ∧ rig.sent = messages limit bytes ∧
      rig.Shows (verdict limit bytes (ending? (arrivals turns))) := by
  intro rig bytes
  -- Running is a longer course with the same arrivals.
  let more := List.replicate (((start limit).course turns).router.work
    ((start limit).course turns).stdout) Turn.router
  have hrig : rig = (start limit).course (turns ++ more) := by
    rw [course_append, ← runFor_eq_course]
    rfl
  have harrivals : arrivals (turns ++ more) = arrivals turns := by
    simp [arrivals, more, List.filterMap_replicate, Turn.arrival?]
  have hreading : IsReading (turns ++ more) := by
    intro e he
    rcases List.mem_append.mp he with he | he
    · exact h e he
    · exact absurd (List.eq_of_mem_replicate he) (by simp)
  have hstep : rig.step = none := step_run_eq_none _
  have hkeeps := keeps_course limit (turns ++ more)
  obtain ⟨hshut, hlistener, hslot⟩ := attended_course hreading limit
  rw [← hrig, harrivals] at hkeeps
  rw [← hrig] at hshut hlistener hslot
  exact ⟨hstep, hkeeps.shows hstep hshut hlistener hslot⟩

/-- A path that comes in three pieces behind two messages, with the router at work in between. -/
theorem run_course_of_split_path :
    let turns : List Turn :=
      [.event (.arrival (.data (Bytes.ofText "offer\nv"))), .router, .router, .router,
        .event (.arrival (.data (Bytes.ofText "=0\n[\"udp\",\"a:1\",\"5-tu"))), .router,
        .event (.arrival (.data (Bytes.ofText "ple\"]\nlate\n"))), .event (.arrival .eof)]
    let rig := ((start 24).course turns).run
    IsReading turns ∧ rig.step = none ∧ rig.sent = [Bytes.ofText "offer", Bytes.ofText "v=0"] ∧
      rig.Shows (.connected ⟨.udp, "a:1", "5-tuple"⟩) := by
  intro turns rig
  have hreading : IsReading turns := by
    intro e he
    simp only [turns, List.mem_cons, Turn.event.injEq, reduceCtorEq, false_or, List.not_mem_nil,
      or_false] at he
    rcases he with rfl | rfl | rfl | rfl <;> exact ⟨_, rfl⟩
  have hrun := run_course_eq_reading 24 turns hreading
  have hmessages : messages 24 (readable (arrivals turns)) =
      [Bytes.ofText "offer", Bytes.ofText "v=0"] := by decide +kernel
  have hverdict : verdict 24 (readable (arrivals turns)) (ending? (arrivals turns)) =
      .connected ⟨.udp, "a:1", "5-tuple"⟩ := by decide +kernel
  simp only [hmessages, hverdict] at hrun
  exact ⟨hreading, hrun⟩

end RouterRig
end Traversal
