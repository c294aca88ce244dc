import Mathlib
import Traversal.Proofs.Pump
import Traversal.Proofs.Relay
import Traversal.Proofs.Router
import Traversal.Proofs.Watcher

/-!
# Tasks that have been told to stop

A task that has been told to stop never has to wait for another one.  `step_ne_none` says for the router,
the relay and the pump that they can move until they are done, and `waits_of_step` what a watcher waits
for: time to pass, or the end of an engine that it has killed.

Nor can a task move for ever.  `toil` bounds the steps that it still takes, whatever happens around it, and
every step takes from it (`toil_lt_of_step`): the router stops as soon as it comes to the end of a line, and
takes no more than one line can hold before that; the pump takes up no other message; and the relay makes
only so many reads before it looks for the shutdown, each of which fills its buffer at most.
-/

namespace Traversal

/-! ### The router -/

/-- Every chunk that has arrived holds at least one byte. -/
def Source.IsSolid (s : Source) : Prop :=
  Arrival.data [] ∉ s.arrivals

/-- Nothing arrives as an empty chunk. -/
lemma Source.IsSolid.arrive {s : Source} (h : s.IsSolid) (a : Arrival) : (s.arrive a).IsSolid := by
  unfold Source.arrive
  split
  · exact h
  · next hblank =>
    unfold IsSolid
    rw [List.mem_append, not_or]
    refine ⟨h, fun hmem => ?_⟩
    exact hblank (List.mem_singleton.mp hmem).symm

/-- Reading leaves no empty chunk. -/
lemma Source.IsSolid.read {s : Source} (h : s.IsSolid) : s.read.2.IsSolid := by
  unfold Source.read
  unfold IsSolid at h ⊢
  split
  · exact h
  · next harrivals =>
    rw [harrivals] at h
    exact fun hmem => h (List.mem_cons_of_mem _ hmem)
  · next harrivals =>
    rw [harrivals] at h
    exact fun hmem => h (List.mem_cons_of_mem _ hmem)
  · exact h

namespace Router

open Record

variable {limit : Nat} {arrivals : List Arrival} {sent : List Bytes} {r : Router} {s : Source}

/-- A bound on the steps of a router that has been told to stop. -/
def toil (r : Router) : Nat :=
  match r.phase with
  | .done => 0
  | .releasing .slot => 1
  | .releasing .notices => 2
  | .releasing .stdout => 3
  | .posting _ => 4
  | .waiting => 5
  | .taking =>
    if r.sawEnd then 6
    else 6 + 2 * (r.decoder.limit + 1 - r.decoder.buffer.length) + if r.isReadable then 1 else 0

/-- A router that has been told to stop can move until it is done. -/
lemma step_ne_none (hphase : r.phase ≠ .done) (s : Source) : r.step true s ≠ none := by
  unfold step
  split <;> simp_all

/-- Dealing with a record leads a router on. -/
lemma toil_route_le (r : Router) (record : Bytes) (s : Source) : (r.route record s).router.toil ≤ 5 := by
  unfold route
  split <;> simp [toil]

/-- Searching the buffer brings a router nearer to its end. -/
lemma toil_search_lt (h : AtWork limit arrivals sent r s) (hphase : r.phase = .taking)
    (hr : r.isReadable = true) : (r.search s).router.toil < r.toil := by
  have hbefore : 6 ≤ r.toil := by
    simp only [toil, hphase]
    split <;> omega
  unfold search
  by_cases hsaw : r.sawEnd = true
  · rw [if_pos hsaw]
    split
    · exact (toil_route_le _ _ _).trans_lt hbefore
    · exact (show 4 < 6 by decide).trans_le hbefore
    · simp only [if_pos hsaw]
      exact (show 4 < 6 by decide).trans_le hbefore
  · rw [if_neg hsaw]
    rcases Decoder.next_spec h.sound h.keeps with ⟨line, rest, -, -, -, hnext⟩ | ⟨-, -, hnext⟩ |
      ⟨-, -, hnext⟩
    · rw [hnext]
      exact (toil_route_le _ _ _).trans_lt hbefore
    · rw [hnext]
      exact (show 4 < 6 by decide).trans_le hbefore
    · simp [hnext, toil, hphase, hsaw, hr]

/-- Reading from the stream brings a router nearer to its end: the buffer grows, and it cannot grow
beyond a line. -/
lemma toil_read_lt (h : AtWork limit arrivals sent r s) (hsolid : s.IsSolid) (hphase : r.phase = .taking)
    (hr : r.isReadable = false) : (r.read s).router.toil < r.toil := by
  obtain ⟨-, hshort⟩ := h.fragment hr
  rw [← h.limit_eq] at hshort
  have hsaw : r.sawEnd = false := by
    by_contra hsaw
    have := h.isReadable_of_sawEnd (by simpa using hsaw)
    simp [hr] at this
  have hbefore : r.toil = 6 + 2 * (r.decoder.limit + 1 - r.decoder.buffer.length) := by
    simp [toil, hphase, hsaw, hr]
  unfold read Source.read
  cases harrivals : s.arrivals with
  | nil =>
    rw [hbefore]
    simp [toil]
    omega
  | cons a rest =>
    cases a with
    | data bytes =>
      have hpos : 0 < bytes.length := by
        rw [List.length_pos_iff]
        rintro rfl
        exact hsolid (by rw [harrivals]; exact List.mem_cons_self ..)
      rw [hbefore]
      simp only [toil, hphase, hsaw, Bool.false_eq_true, if_false, if_true, Decoder.feed,
        List.length_append]
      omega
    | fault reason =>
      rw [hbefore]
      simp [toil]
      omega
    | eof =>
      rw [hbefore]
      simp only [hsaw, toil, hphase, Bool.false_eq_true, if_false, if_true]
      omega

/-- Every step brings a router that has been told to stop nearer to its end. -/
theorem toil_lt_of_step (h : Follows limit arrivals sent r s) (hsolid : s.IsSolid) {m : Move}
    (hstep : r.step true s = some m) : m.router.toil < r.toil := by
  unfold step at hstep
  unfold Follows at h
  cases hphase : r.phase with
  | waiting =>
    simp only [hphase, if_true, Option.some.injEq] at hstep
    subst hstep
    simp [toil, hphase]
  | taking =>
    simp only [hphase, Option.some.injEq] at h hstep
    subst hstep
    split
    · next hr => exact toil_search_lt h hphase hr
    · next hr => exact toil_read_lt h hsolid hphase (by simpa using hr)
  | posting failure? =>
    simp only [hphase, Option.some.injEq] at hstep
    subst hstep
    simp [toil, hphase]
  | releasing hold =>
    simp only [hphase, Option.some.injEq] at hstep
    subst hstep
    cases hold <;> simp [toil, hphase, Hold.next]
  | done => simp [hphase] at hstep

/-- No step of a router lets an empty chunk into its stream. -/
lemma isSolid_of_step (hsolid : s.IsSolid) {isShutdown : Bool} {m : Move}
    (hstep : r.step isShutdown s = some m) : m.stdout.IsSolid := by
  have hroute : ∀ (r : Router) record, (r.route record s).stdout = s := by
    intro r record
    unfold route
    split <;> rfl
  have hread : (r.read s).stdout = s.read.2 := by
    unfold read
    split
    · next heq => rw [heq]
    · next heq => rw [heq]
    · next heq => split <;> rw [heq]
    · next heq => rw [heq]
  have hsearch : (r.search s).stdout = s := by
    unfold search
    split
    · exact hroute _ _
    · rfl
    · rfl
  unfold step at hstep
  cases hphase : r.phase with
  | waiting =>
    simp only [hphase] at hstep
    split at hstep
    · cases hstep
      exact hsolid
    · split at hstep <;> cases hstep
      exact hsolid
  | taking =>
    simp only [hphase, Option.some.injEq] at hstep
    subst hstep
    split
    · rw [hsearch]
      exact hsolid
    · rw [hread]
      exact hsolid.read
  | posting failure? =>
    simp only [hphase, Option.some.injEq] at hstep
    subst hstep
    exact hsolid
  | releasing hold =>
    simp only [hphase, Option.some.injEq] at hstep
    subst hstep
    exact hsolid
  | done => simp [hphase] at hstep

end Router

/-! ### The pump -/

namespace Pump

variable {first? : Option Request} {hasSenders : Bool} {p : Pump} {k : Sink}

/-- A bound on the steps of a pump that has been told to stop. -/
def toil (p : Pump) : Nat :=
  match p.phase with
  | .done => 0
  | .releasing .queue => 1
  | .releasing .stdin => 2
  | .idle => 3
  | .deaf => 3
  | .answering _ _ => 4
  | .poised _ _ _ => 5
  | .pushing request stage =>
    6 + p.buffer.length + if stage = .clearing then request.payload.length + 2 else 0

/-- A pump that has been told to stop can move until it is done. -/
lemma step_ne_none (hphase : p.phase ≠ .done) (first? : Option Request) (hasSenders : Bool) (k : Sink) :
    p.step true first? hasSenders k ≠ none := by
  unfold step
  split <;> simp_all

/-- Writing from the buffer brings a pump nearer to its end. -/
lemma toil_push_lt {request : Request} {stage : Stage} (hphase : p.phase = .pushing request stage) :
    (p.push request stage k).pump.toil < p.toil := by
  have hbefore : p.toil =
      6 + p.buffer.length + if stage = .clearing then request.payload.length + 2 else 0 := by
    simp only [toil, hphase]
  unfold push
  split
  · next hempty =>
    have hempty : p.buffer = [] := List.isEmpty_iff.mp hempty
    split
    · rw [hbefore]
      cases stage with
      | clearing => simp [advance, load, toil, hempty, Record.encode]
      | writing => simp [advance, toil]; omega
    · rw [hbefore]
      simp only [fail, toil]
      omega
  · next hnonempty =>
    have hbuffer : p.buffer ≠ [] := fun hempty => hnonempty (List.isEmpty_iff.mpr hempty)
    have hlength : 0 < p.buffer.length := List.length_pos_iff.mpr hbuffer
    split
    · next n k' heq =>
      have hpos : 0 < n := Sink.pos_of_write hbuffer (by rw [heq])
      rw [hbefore]
      simp only [toil, hphase, List.length_drop]
      omega
    · rw [hbefore]
      simp only [fail, toil]
      omega
    · rw [hbefore]
      simp only [fail, toil]
      omega
    · rw [hbefore]
      simp only [toil]
      omega

/-- Every step brings a pump that has been told to stop nearer to its end. -/
theorem toil_lt_of_step {m : Move} (hstep : p.step true first? hasSenders k = some m) :
    m.pump.toil < p.toil := by
  unfold step at hstep
  cases hphase : p.phase with
  | idle | deaf =>
    simp only [hphase, if_true, Option.some.injEq] at hstep
    subst hstep
    simp [toil, hphase]
  | poised request stage needsRoom =>
    simp only [hphase, if_true, Option.some.injEq] at hstep
    subst hstep
    simp [toil, hphase]
  | pushing request stage =>
    simp only [hphase, Option.some.injEq] at hstep
    subst hstep
    exact toil_push_lt hphase
  | answering request failure? =>
    simp only [hphase, Option.some.injEq] at hstep
    subst hstep
    simp [toil, hphase]
  | releasing hold =>
    simp only [hphase, Option.some.injEq] at hstep
    subst hstep
    cases hold <;> simp [toil, hphase, Hold.next]
  | done => simp [hphase] at hstep

end Pump

/-! ### The watcher -/

namespace Watcher

open Engine

variable {prefersShutdown : Bool} {now : Nat} {w : Watcher} {c : Child}

/-- A bound on the steps of a watcher. -/
def toil (w : Watcher) : Nat :=
  match w.phase with
  | .done => 0
  | .releasing .child => 1
  | .releasing .notices => 2
  | .posting _ => 3
  | .mourning => 4
  | .killing => 5
  | .graced _ => 6
  | .watching => 7

/-- A watcher that has been told to stop waits for time to pass, or for the end of an engine that it has
killed, or is done. -/
lemma waits_of_step (h : w.step true prefersShutdown now c = none) :
    (c = .running ∧ ((∃ deadline, w.phase = .graced deadline ∧ now < deadline) ∨ w.phase = .mourning)) ∨
      w.phase = .done := by
  rcases stalls_of_step h with hdone | ⟨hrunning, ⟨-, hshut⟩ | hgraced | hmourning⟩
  · exact .inr hdone
  · cases hshut
  · exact .inl ⟨hrunning, .inl hgraced⟩
  · exact .inl ⟨hrunning, .inr hmourning⟩

/-- Every step brings a watcher nearer to its end. -/
theorem toil_lt_of_step {isShutdown : Bool} {m : Move}
    (hstep : w.step isShutdown prefersShutdown now c = some m) : m.watcher.toil < w.toil := by
  cases motion_of_step hstep with
  | yield hphase _ hm =>
    subst hm
    simp [toil, hphase, yield]
  | collect status _ hphase hm =>
    subst hm
    rcases hphase with hphase | ⟨_, hphase⟩ | hphase <;> simp [toil, hphase, collect]
  | giveUp deadline hphase _ _ hm =>
    subst hm
    simp [toil, hphase]
  | kill hphase hm =>
    subst hm
    simp [toil, hphase]
  | post failure? hphase hm =>
    subst hm
    simp [toil, hphase]
  | release hold hphase hm =>
    subst hm
    cases hold <;> simp [toil, hphase, Hold.next]

end Watcher

/-! ### The relay -/

/-- Reading yields no more than there is room for. -/
lemma Source.length_le_of_readUpTo {s s' : Source} {room : Nat} {bytes : Bytes}
    (h : s.readUpTo room = (.chunk bytes, s')) : bytes.length ≤ room := by
  unfold readUpTo at h
  split at h
  · split at h
    · next hle =>
      cases h
      exact hle
    · cases h
      exact List.length_take_le _ _
  · next hother =>
    rw [h] at hother
    exact absurd rfl (hother bytes s')

namespace Relay

variable {r : Relay} {s : Source} {k : Sink}

/-- There is never more room than the buffer can hold. -/
lemma room_le (r : Relay) : r.room ≤ capacity := by
  unfold room
  split
  · exact Nat.zero_le _
  · split
    · exact le_rfl
    · exact Nat.sub_le _ _

/-- A relay without room has something to write, or nothing more to read. -/
lemma busy_of_room (h : r.room = 0) : (r.buffer.isEmpty && !r.isEnded) = false := by
  by_contra hempty
  simp_all [room, capacity]

/-- A relay that has been told to stop can move until it is done. -/
lemma step_ne_none (hphase : r.phase ≠ .done) (s : Source) (k : Sink) : r.step true s k ≠ none := by
  unfold step wait
  cases hr : r.phase with
  | done => exact absurd hr hphase
  | reading =>
    simp only
    split <;> simp
  | writing =>
    simp only
    split
    · simp
    · split <;> simp
  | _ => simp

/-- A relay in its loop has more to do than to report and to let go of what it holds. -/
lemma six_le_toil (h : r.isCopying = true) : 6 ≤ r.toil := by
  unfold isCopying at h
  unfold toil
  split at h <;> simp_all <;> omega

/-- A relay that has left its loop has little to do. -/
lemma toil_le_of_not_isCopying (h : r.isCopying = false) : r.toil ≤ 5 := by
  unfold isCopying at h
  unfold toil
  cases hphase : r.phase with
  | releasing hold => cases hold <;> simp
  | _ => simp_all

/-- Leaving its loop brings a relay nearer to its end. -/
lemma toil_lt_of_leave (h : r.isCopying = true) {r' : Relay} (h' : r'.isCopying = false) :
    r'.toil < r.toil := by
  have hle := toil_le_of_not_isCopying h'
  have hge := six_le_toil h
  omega

/-- Reading brings a relay nearer to its end, if it does so wherever it leads. -/
lemma toil_read_lt (h : r.isCopying = true) {next : Phase} {otherwise : Move}
    (hchunk : ∀ bytes, bytes.length ≤ capacity → 0 < r.budget →
      ({ (r.spend true).take bytes with phase := next } : Relay).toil < r.toil)
    (heof : ({ r with isEnded := true, phase := next } : Relay).toil < r.toil)
    (hretry : 0 < r.budget → (r.spend true).toil < r.toil) (hotherwise : otherwise.relay.toil < r.toil) :
    (r.read true s k next otherwise).relay.toil < r.toil := by
  unfold read
  split
  · exact hotherwise
  · next hspent =>
    have hbudget : 0 < r.budget := Nat.pos_of_ne_zero (by simpa using hspent)
    split
    · next bytes s' hread =>
      exact hchunk bytes ((Source.length_le_of_readUpTo hread).trans r.room_le) hbudget
    · exact heof
    · next fault s' hread =>
      by_cases hinterruption : fault.isInterruption = true
      · rw [if_pos hinterruption]
        exact hretry hbudget
      · rw [if_neg hinterruption]
        exact toil_lt_of_leave h rfl
    · exact hotherwise

/-- Writing brings a relay nearer to its end. -/
lemma toil_write_lt (hphase : r.phase = .writing) (hbuffer : r.buffer ≠ []) (hresponsive : k.IsResponsive) :
    (r.write s k).relay.toil < r.toil := by
  have hcopying : r.isCopying = true := by simp [isCopying, hphase]
  have hlength : 0 < r.buffer.length := List.length_pos_iff.mpr hbuffer
  have hbefore : r.toil = 8 + 3 * r.buffer.length + (3 * capacity + 2) * r.budget := by
    simp [toil, hphase, hbuffer]
  unfold write
  split
  · next n k' hwrite =>
    have hpos : 0 < n := Sink.pos_of_write (s := k.uninterrupted) hbuffer (congrArg Prod.fst hwrite)
    have hafter : ({ r with buffer := r.buffer.drop n, isDirty := true } : Relay).toil ≤
        8 + 2 + 3 * (r.buffer.length - n) + (3 * capacity + 2) * r.budget := by
      simp only [toil, hphase, List.length_drop]
      split <;> omega
    change ({ r with buffer := r.buffer.drop n, isDirty := true } : Relay).toil < _
    omega
  · exact toil_lt_of_leave hcopying rfl
  · next fault k' hwrite =>
    have hfinal := hresponsive.isInterruption_eq_false (congrArg Prod.fst hwrite)
    simp only [hfinal, Bool.false_eq_true, if_false]
    exact toil_lt_of_leave hcopying rfl
  · -- There is no room: the relay looks for the shutdown as soon as it has tried to read once more.
    have hspare : r.budget ≤ (3 * capacity + 2) * r.budget := Nat.le_mul_of_pos_left _ (Nat.succ_pos _)
    rw [hbefore]
    split
    · simp only [toil]
      omega
    · simp only [toil]
      omega

/-- Waiting for more brings a relay nearer to its end, since it looks for the shutdown first. -/
lemma toil_rest_lt (hphase : r.phase = .reading) : (r.rest s k).relay.toil < r.toil := by
  have hidle : ∀ r' : Relay, r'.phase = .idle → r'.toil < r.toil := by
    intro r' hr'
    simp only [toil, hr', hphase]
    omega
  unfold rest
  split
  · split
    · exact hidle _ rfl
    · exact toil_lt_of_leave (by simp [isCopying, hphase]) rfl
  · exact hidle _ rfl

/-- Turning from reading to writing brings a relay nearer to its end. -/
lemma toil_turn_lt (hphase : r.phase = .reading) (hbusy : (r.buffer.isEmpty && !r.isEnded) = false) :
    ({ r with phase := .writing } : Relay).toil < r.toil := by
  simp only [toil, hphase, hbusy, Bool.false_eq_true, if_false]
  omega

/-- Reading to go on with writing brings a relay nearer to its end. -/
lemma toil_reading_lt (hphase : r.phase = .reading) :
    (r.read true s k .writing (if r.buffer.isEmpty then r.rest s k
      else { relay := { r with phase := .writing }, stderr := s, sink := k })).relay.toil < r.toil := by
  have hbefore : r.toil = 9 + 3 * r.buffer.length + (3 * capacity + 2) * r.budget := by
    simp [toil, hphase]
  refine toil_read_lt (by simp [isCopying, hphase]) (fun bytes hlength hbudget => ?_) ?_
    (fun hbudget => ?_) ?_
  · -- The read that has been used up pays for what it has brought.
    rw [hbefore]
    simp only [toil, take, spend, if_true, List.length_append, capacity] at hlength ⊢
    split <;> omega
  · rw [hbefore]
    simp only [toil, Bool.not_true, Bool.and_false, Bool.false_eq_true, if_false]
    omega
  · rw [hbefore]
    simp only [toil, spend, hphase, if_true, capacity]
    omega
  · split
    · exact toil_rest_lt hphase
    · next hnonempty => exact toil_turn_lt hphase (by simp [hnonempty])

/-- Every step brings a relay that has been told to stop nearer to its end. -/
theorem toil_lt_of_step (hresponsive : k.IsResponsive) {m : Move} (h : r.step true s k = some m) :
    m.relay.toil < r.toil := by
  unfold step at h
  cases hphase : r.phase with
  | idle | blocked isListening =>
    simp only [hphase, wait, if_true, Option.some.injEq] at h
    subst h
    exact toil_lt_of_leave (by simp [isCopying, hphase]) rfl
  | reading =>
    simp only [hphase] at h
    split at h
    · next hroom =>
      cases h
      exact toil_turn_lt hphase (busy_of_room hroom)
    · cases h
      exact toil_reading_lt hphase
  | writing =>
    have hcopying : r.isCopying = true := by simp [isCopying, hphase]
    simp only [hphase] at h
    split at h
    · next hnonempty =>
      cases h
      exact toil_write_lt hphase (by simpa using hnonempty) hresponsive
    · next hempty =>
      split at h
      · cases h
        unfold conclude
        split <;> exact toil_lt_of_leave hcopying rfl
      · next hended =>
        cases h
        have hempty : r.buffer.isEmpty = true := by simpa using hempty
        simp [toil, hphase, hempty, hended]
  | toppingUp =>
    have hbefore : r.toil = 7 + r.budget := by simp [toil, hphase]
    simp only [hphase, Option.some.injEq] at h
    subst h
    have hblocked : ∀ (r' : Relay) isListening, r'.phase = .blocked isListening → r'.toil < r.toil := by
      intro r' isListening hr'
      rw [hbefore]
      simp only [toil, hr']
      omega
    refine toil_read_lt (by simp [isCopying, hphase]) (fun bytes _ _ => hblocked _ _ rfl)
      (hblocked _ _ rfl) (fun hbudget => ?_) (hblocked _ _ rfl)
    rw [hbefore]
    simp only [toil, spend, hphase, if_true]
    omega
  | flushing isShutdown =>
    simp only [hphase, Option.some.injEq] at h
    subst h
    cases isShutdown <;> simp [toil, hphase]
  | posting failure? =>
    simp only [hphase, Option.some.injEq] at h
    subst h
    simp [toil, hphase]
  | releasing hold =>
    simp only [hphase, Option.some.injEq] at h
    subst h
    cases hold <;> simp [toil, hphase, Hold.next]
  | done => simp [hphase] at h

/-- A relay does not change what the far side of its sink does to every write. -/
lemma broken_of_step {isShutdown : Bool} {m : Move} (h : r.step isShutdown s k = some m) :
    m.sink.broken = k.broken := by
  rcases sink_of_step h with hsink | hsink | hsink | hsink
  · rw [hsink]
  · rw [hsink, Sink.calm]
  · rw [hsink, (k.kept_offer r.buffer).2.2]
  · rcases k.flush_cases with hgood | ⟨fault, rest, -, hbad⟩
    · rw [hsink, hgood]
    · rw [hsink, hbad]

end Relay
end Traversal
