import Mathlib
import Traversal.Proofs.Stopping
import Traversal.Rig.Relay

/-!
# The work of a relay

`Relay.work` is a bound on the number of steps that a relay can take with what has arrived for it, as long as
it is not told to stop; `Relay.toil` takes its place then.  Every step takes from it (`work_lt_of_step`), so
that a relay by itself comes to a standstill when it is left to run (`RelayRig.step_run_eq_none`), unless the
far side of its sink interrupts every write for ever.
-/

namespace Traversal

/-- Reading once takes what it yields from what has arrived. -/
lemma Source.size_readUpTo (room : Nat) (s : Source) :
    match s.readUpTo room with
    | (.chunk bytes, s') => s'.size + bytes.length ≤ s.size ∧ (0 < room → s'.size < s.size)
    | (.fault _, s') => s'.size < s.size
    | (.eof, s') => s' = s
    | (.pending, _) => s.isReady = false := by
  obtain ⟨arrivals⟩ := s
  unfold readUpTo Source.read
  cases arrivals with
  | nil => simp [isReady]
  | cons a rest =>
    cases a with
    | data bytes =>
      simp only
      split
      · next heq =>
        split at heq <;> cases heq
        · exact ⟨by simp [size]; omega, fun _ => by simp [size]⟩
        · refine ⟨by simp [size]; omega, fun hroom => ?_⟩
          simp [size]
          omega
      · next heq => split at heq <;> cases heq
      · next heq => split at heq <;> cases heq
      · next heq => split at heq <;> cases heq
    | fault reason => simp [size]
    | eof => simp

namespace Relay

variable {r : Relay} {s : Source} {k : Sink}

/-- What is left to copy for a relay, wherever it is in its loop. -/
def backlog (r : Relay) (s : Source) (k : Sink) : Nat :=
  6 + (if k.isStirred then 4 else 0) + (if r.isEnded then 0 else 8) + 4 * r.buffer.length + 8 * s.size

/-- The steps that are left from where a relay is in its loop, beside those for what is left to copy. -/
def share (r : Relay) (s : Source) : Nat :=
  match r.phase with
  | .idle => if s.isReady then 4 else 0
  | .blocked isListening => if isListening && s.isReady then 4 else 0
  | .toppingUp => 1
  | .reading => 3
  | .writing => if r.buffer.isEmpty && !r.isEnded then 4 else 2
  | _ => 0

lemma work_eq_of_isCopying (h : r.isCopying = true) : r.work s k = r.backlog s k + r.share s := by
  unfold isCopying at h
  unfold work share backlog
  split at h <;> simp_all <;> omega

/-- A relay that leaves its loop has less to do than before. -/
lemma work_lt_of_leave (h : r.isCopying = true) {r' : Relay} (h' : r'.isCopying = false) (s' : Source)
    (k' : Sink) : r'.work s' k' < r.work s k := by
  have hle : r'.work s' k' ≤ 5 := by
    unfold isCopying at h'
    unfold work
    cases hphase : r'.phase with
    | releasing hold => cases hold <;> simp
    | _ => simp_all
  rw [work_eq_of_isCopying h]
  unfold backlog
  omega

/-- A relay that stays in its loop has less to do if what is left to copy makes up for where it is. -/
lemma work_lt_of_backlog (h : r.isCopying = true) {r' : Relay} (h' : r'.isCopying = true) {s' : Source}
    {k' : Sink} (hlt : r'.backlog s' k' + r'.share s' < r.backlog s k + r.share s) :
    r'.work s' k' < r.work s k := by
  rw [work_eq_of_isCopying h, work_eq_of_isCopying h']
  exact hlt

/-- Of a sink it only matters whether it has been stirred. -/
lemma backlog_le_of_isStirred {k' : Sink} (h : k'.isStirred = true → k.isStirred = true) :
    r.backlog s k' ≤ r.backlog s k := by
  have hle : (if k'.isStirred then 4 else 0) ≤ if k.isStirred then 4 else 0 := by
    cases hstirred : k'.isStirred with
    | true => rw [h hstirred]
    | false => exact Nat.zero_le _
  unfold backlog
  omega

/-- Flushing changes nothing about what is left to copy. -/
lemma backlog_flush (r : Relay) (s : Source) (k : Sink) : r.backlog s k.flush.2 = r.backlog s k := by
  unfold Sink.flush backlog
  split <;> rfl

/-- Reading takes from the work that is left, if what has been read makes up for where it leads. -/
lemma work_read_lt (h : r.isCopying = true) {next : Phase} {otherwise : Move}
    (hnext : ∀ r' : Relay, r'.phase = next → r'.isCopying = true)
    (hgain : ∀ (r' : Relay) s', r'.phase = next →
      r'.share s' < r.share s + if 0 < r.room then 4 else 0)
    (hself : ∀ s', r.share s' = r.share s)
    (hotherwise : s.isReady = false → otherwise.relay.work otherwise.stderr otherwise.sink < r.work s k) :
    let m := r.read false s k next otherwise
    m.relay.work m.stderr m.sink < r.work s k := by
  intro m
  have hsize := s.size_readUpTo r.room
  have hspend : r.spend false = r := rfl
  unfold m read
  simp only [hspend, Bool.false_and, Bool.false_eq_true, if_false]
  split
  · next bytes s' heq =>
    rw [heq] at hsize
    obtain ⟨hle, hlt⟩ := hsize
    have hbacklog : ({ r.take bytes with phase := next } : Relay).backlog s' k + 8 * s.size =
        r.backlog s k + 4 * bytes.length + 8 * s'.size := by
      simp [backlog, Relay.take]
      omega
    have hgain := hgain { r.take bytes with phase := next } s' rfl
    refine work_lt_of_backlog h (hnext _ rfl) ?_
    change ({ r.take bytes with phase := next } : Relay).backlog s' k +
      ({ r.take bytes with phase := next } : Relay).share s' < _
    by_cases hroom : 0 < r.room
    · have := hlt hroom
      rw [if_pos hroom] at hgain
      omega
    · rw [if_neg hroom] at hgain
      omega
  · next s' heq =>
    rw [heq] at hsize
    obtain rfl : s' = s := hsize
    have hbacklog : ({ r with isEnded := true, phase := next } : Relay).backlog s' k +
        (if r.isEnded then 0 else 8) = r.backlog s' k := by
      simp [backlog]
      omega
    have hgain := hgain { r with isEnded := true, phase := next } s' rfl
    refine work_lt_of_backlog h (hnext _ rfl) ?_
    change ({ r with isEnded := true, phase := next } : Relay).backlog s' k +
      ({ r with isEnded := true, phase := next } : Relay).share s' < _
    by_cases hended : r.isEnded = true
    · -- A relay that has read the end has no room left.
      have hroom : ¬ 0 < r.room := by simp [room, hended]
      rw [if_neg hroom] at hgain
      omega
    · rw [if_neg hended] at hbacklog
      split at hgain <;> omega
  · next fault s' heq =>
    rw [heq] at hsize
    have hsize : s'.size < s.size := hsize
    by_cases hinterruption : fault.isInterruption = true
    · rw [if_pos hinterruption]
      have hbacklog : r.backlog s' k + 8 * s.size = r.backlog s k + 8 * s'.size := by
        simp only [backlog]
        omega
      refine work_lt_of_backlog h h ?_
      change r.backlog s' k + r.share s' < _
      rw [hself s']
      omega
    · rw [if_neg hinterruption]
      exact work_lt_of_leave h rfl _ _
  · next heq =>
    rw [heq] at hsize
    exact hotherwise hsize

/-- Writing takes from the work that is left. -/
lemma work_write_lt (hphase : r.phase = .writing) (hbuffer : r.buffer.isEmpty = false)
    (hresponsive : k.IsResponsive) :
    (r.write s k).relay.work (r.write s k).stderr (r.write s k).sink < r.work s k := by
  have hcopying : r.isCopying = true := by simp [isCopying, hphase]
  have hshare : r.share s = 2 := by simp [share, hphase, hbuffer]
  have hnonempty : r.buffer ≠ [] := by simpa using hbuffer
  have hlength : 0 < r.buffer.length := List.length_pos_iff.mpr hnonempty
  have hstirred : (k.offer r.buffer).2.isStirred = true → k.isStirred = true := Sink.isStirred_of_write
  unfold write
  split
  · next n k' hwrite =>
    have hpos : 0 < n := Sink.pos_of_write (s := k.uninterrupted) hnonempty (congrArg Prod.fst hwrite)
    rw [hwrite] at hstirred
    have hsame : r.backlog s k' ≤ r.backlog s k := backlog_le_of_isStirred hstirred
    have hbacklog : ({ r with buffer := r.buffer.drop n, isDirty := true } : Relay).backlog s k' + 4 ≤
        r.backlog s k' := by
      simp only [backlog, List.length_drop]
      omega
    have hturn : ({ r with buffer := r.buffer.drop n, isDirty := true } : Relay).share s ≤ 4 := by
      simp only [share, hphase]
      split <;> omega
    refine work_lt_of_backlog hcopying (by simp [isCopying, hphase]) ?_
    change ({ r with buffer := r.buffer.drop n, isDirty := true } : Relay).backlog s k' +
      ({ r with buffer := r.buffer.drop n, isDirty := true } : Relay).share s < _
    omega
  · exact work_lt_of_leave hcopying rfl _ _
  · next fault k' hwrite =>
    have hfinal := hresponsive.isInterruption_eq_false (congrArg Prod.fst hwrite)
    simp only [hfinal, Bool.false_eq_true, if_false]
    exact work_lt_of_leave hcopying rfl _ _
  · next k' hwrite =>
    rw [hwrite] at hstirred
    have hbacklog : r.backlog s k' ≤ r.backlog s k := backlog_le_of_isStirred hstirred
    by_cases hroom : r.room = 0
    · simp only [if_pos hroom]
      refine work_lt_of_backlog hcopying rfl ?_
      change r.backlog s k' + 0 < _
      omega
    · simp only [if_neg hroom]
      refine work_lt_of_backlog hcopying rfl ?_
      change r.backlog s k' + 1 < _
      omega

/-- Waiting for more takes from the work that is left. -/
lemma work_rest_lt (hphase : r.phase = .reading) (hready : s.isReady = false) :
    (r.rest s k).relay.work (r.rest s k).stderr (r.rest s k).sink < r.work s k := by
  have hcopying : r.isCopying = true := by simp [isCopying, hphase]
  have hshare : r.share s = 3 := by simp [share, hphase]
  have hidle : ∀ r' : Relay, r'.phase = .idle → r'.share s = 0 := by
    intro r' hr'
    simp [share, hr', hready]
  have hflush := r.backlog_flush s k
  unfold rest
  split
  · split
    · next k' heq =>
      have hflush : r.backlog s k' = r.backlog s k := by rwa [heq] at hflush
      refine work_lt_of_backlog hcopying rfl ?_
      rw [hidle _ rfl]
      change r.backlog s k' + 0 < _
      omega
    · exact work_lt_of_leave hcopying rfl _ _
  · refine work_lt_of_backlog hcopying rfl ?_
    rw [hidle _ rfl]
    change r.backlog s k + 0 < _
    omega

/-- Turning from reading to writing takes from the work that is left. -/
lemma work_turn_lt (hphase : r.phase = .reading) (hbusy : (r.buffer.isEmpty && !r.isEnded) = false) :
    ({ r with phase := .writing } : Relay).work s k < r.work s k := by
  have hbefore : r.share s = 3 := by simp [share, hphase]
  have hafter : ({ r with phase := .writing } : Relay).share s = 2 := by
    simp only [share, hbusy, Bool.false_eq_true, if_false]
  refine work_lt_of_backlog (by simp [isCopying, hphase]) rfl ?_
  rw [hbefore, hafter]
  change r.backlog s k + 2 < _
  omega

/-- Waiting in vain is no step, and being woken takes from the work that is left. -/
lemma work_wait_lt (hphase : r.phase = .idle ∨ ∃ isListening, r.phase = .blocked isListening) {m : Move}
    (h : r.wait false s k = some m) : m.relay.work m.stderr m.sink < r.work s k := by
  have hcopying : r.isCopying = true := by
    rcases hphase with hidle | ⟨isListening, hblocked⟩
    · simp [isCopying, hidle]
    · simp [isCopying, hblocked]
  simp only [wait, Bool.false_eq_true, if_false] at h
  split at h
  · next hwoken =>
    cases h
    have hbacklog : r.backlog s k.calm + (if k.isStirred then 4 else 0) = r.backlog s k := by
      simp [backlog, Sink.calm]
      omega
    -- Whatever has woken the relay has been counted.
    have hcounted : 4 ≤ r.share s + if k.isStirred then 4 else 0 := by
      rcases hphase with hidle | ⟨isListening, hblocked⟩
      · have hready : s.isReady = true := by simpa [isWoken, hidle] using hwoken
        simp [share, hidle, hready]
      · simp only [isWoken, hblocked, Bool.or_eq_true] at hwoken
        rcases hwoken with hstirred | hready
        · simp [hstirred]
        · simp [share, hblocked, hready]
    refine work_lt_of_backlog hcopying rfl ?_
    change r.backlog s k.calm + 3 < _
    omega
  · cases h

/-- Every step of a relay that has not been told to stop takes from the work that is left. -/
theorem work_lt_of_step (hresponsive : k.IsResponsive) {m : Move} (h : r.step false s k = some m) :
    m.relay.work m.stderr m.sink < r.work s k := by
  unfold step at h
  cases hphase : r.phase with
  | idle => exact work_wait_lt (.inl hphase) (by simpa only [hphase] using h)
  | blocked isListening => exact work_wait_lt (.inr ⟨_, hphase⟩) (by simpa only [hphase] using h)
  | reading =>
    have hcopying : r.isCopying = true := by simp [isCopying, hphase]
    have hshare : ∀ s, r.share s = 3 := by simp [share, hphase]
    have hwriting : ∀ r' : Relay, r'.phase = .writing → r'.isCopying = true := by
      intro r' hr'
      simp [isCopying, hr']
    simp only [hphase] at h
    split at h
    · next hroom =>
      cases h
      exact work_turn_lt hphase (busy_of_room hroom)
    · next hroom =>
      cases h
      refine work_read_lt hcopying hwriting (fun r' s' hr' => ?_) (fun s' => by simp [hshare])
        fun hready => ?_
      · rw [if_pos (by omega), hshare]
        simp only [share, hr']
        split <;> omega
      · split
        · exact work_rest_lt hphase hready
        · next hnonempty => exact work_turn_lt hphase (by simp [hnonempty])
  | writing =>
    have hcopying : r.isCopying = true := by simp [isCopying, hphase]
    simp only [hphase] at h
    split at h
    · next hnonempty =>
      cases h
      exact work_write_lt hphase (by simpa using hnonempty) hresponsive
    · next hempty =>
      have hempty : r.buffer.isEmpty = true := by simpa using hempty
      split at h
      · cases h
        unfold conclude
        split <;> exact work_lt_of_leave hcopying rfl _ _
      · next hended =>
        cases h
        refine work_lt_of_backlog hcopying rfl ?_
        have hturn : r.share s = 4 := by simp [share, hphase, hempty, hended]
        change r.backlog s k + 3 < _
        omega
  | toppingUp =>
    have hcopying : r.isCopying = true := by simp [isCopying, hphase]
    have hshare : ∀ s, r.share s = 1 := by simp [share, hphase]
    simp only [hphase, Option.some.injEq] at h
    subst h
    refine work_read_lt hcopying (fun r' hr' => by simp [isCopying, hr']) (fun r' s' hr' => ?_)
      (fun s' => by simp [hshare]) fun hready => ?_
    · simp only [share, hr', hphase, Bool.false_and, Bool.false_eq_true, if_false]
      omega
    · refine work_lt_of_backlog hcopying rfl ?_
      have hturn : ({ r with phase := .blocked true } : Relay).share s = 0 := by simp [share, hready]
      change r.backlog s k + ({ r with phase := .blocked true } : Relay).share s < _
      rw [hturn, hshare]
      omega
  | flushing isShutdown =>
    simp only [hphase, Option.some.injEq] at h
    subst h
    cases isShutdown <;> simp [work, hphase]
  | posting failure? =>
    simp only [hphase, Option.some.injEq] at h
    subst h
    simp [work, hphase]
  | releasing hold =>
    simp only [hphase, Option.some.injEq] at h
    subst h
    cases hold <;> simp [work, hphase, Hold.next]
  | done => simp [hphase] at h

end Relay

namespace RelayRig

variable {rig rig' : RelayRig}

/-- A step of a rig takes from its work, and leaves its sink as responsive as it is. -/
lemma work_lt_of_step (hresponsive : rig.sink.IsResponsive) (h : rig.step = some rig') :
    rig'.work < rig.work ∧ rig'.sink.IsResponsive := by
  unfold RelayRig.step at h
  obtain ⟨m, hmove, rfl⟩ := Option.map_eq_some_iff.mp h
  -- What others see of a step is no part of the work.
  have hwitness : ∀ (rig : RelayRig) act, (rig.witness act).work = rig.work ∧
      (rig.witness act).sink = rig.sink := by
    intro rig act
    unfold witness
    split
    · exact ⟨rfl, rfl⟩
    · split <;> exact ⟨rfl, rfl⟩
    · exact ⟨rfl, rfl⟩
    · exact ⟨rfl, rfl⟩
  obtain ⟨hwork, hsink⟩ := hwitness { rig with relay := m.relay, stderr := m.stderr, sink := m.sink } m.act
  rw [hwork, hsink]
  refine ⟨?_, fun fault hbroken => hresponsive fault (Relay.broken_of_step hmove ▸ hbroken)⟩
  unfold work
  cases hshut : rig.isShutdown with
  | true => simpa using Relay.toil_lt_of_step hresponsive (hshut ▸ hmove)
  | false => simpa using Relay.work_lt_of_step hresponsive (hshut ▸ hmove)

/-- With as many steps as there is work, the relay comes to a standstill. -/
lemma step_runFor_eq_none {n : Nat} (hresponsive : rig.sink.IsResponsive) (h : rig.work ≤ n) :
    (runFor n rig).step = none := by
  induction n generalizing rig with
  | zero =>
    cases hstep : rig.step with
    | none => exact hstep
    | some rig' =>
      have := (work_lt_of_step hresponsive hstep).1
      omega
  | succ n ih =>
    rw [runFor]
    cases hstep : rig.step with
    | none => exact hstep
    | some rig' =>
      obtain ⟨hlt, hresponsive'⟩ := work_lt_of_step hresponsive hstep
      exact ih hresponsive' (by omega)

/-- A rig that runs comes to a standstill, unless every write is interrupted for ever. -/
theorem step_run_eq_none (rig : RelayRig) (hresponsive : rig.sink.IsResponsive) : rig.run.step = none :=
  step_runFor_eq_none hresponsive le_rfl

end RelayRig
end Traversal
