import Mathlib
import Traversal.Proofs.Posting
import Traversal.Proofs.Relay
import Traversal.Proofs.Sink
import Traversal.Rig.Relay

/-!
# Courses of a relay

A course of a relay by itself is any order of turns: something happens around it, or it takes a step.  The
content of the diagnostics is what arrives before their end, whatever faults come in between.

`Relay.Follows` relates a relay to everything that has arrived.  In its loop, what it has written, its
buffer and what is left in the stream make up the content; out of the loop it writes nothing more, and it
is about to report a good end only if the sink holds all of the content, flushed.  `Keeps` adds what the
surroundings know, and `Stopped` is the invariant of a relay that has seen a shutdown.
`diagnostics_of_course` says what follows for every course.
-/

namespace Traversal

/-! ### The content of a stream -/

namespace Arrival

/-- All bytes that come before the end of a stream. -/
def content : List Arrival → Bytes
  | [] => []
  | .data bytes :: rest => bytes ++ content rest
  | .fault _ :: rest => content rest
  | .eof :: _ => []

/-- Before the end has come, what arrives adds to the content. -/
lemma content_append_of_not_mem {arrivals : List Arrival} (h : .eof ∉ arrivals) (more : List Arrival) :
    content (arrivals ++ more) = content arrivals ++ content more := by
  induction arrivals with
  | nil => rfl
  | cons a arrivals ih =>
    rw [List.mem_cons, not_or] at h
    cases a with
    | data bytes => simp [content, ih h.2]
    | fault fault => exact ih h.2
    | eof => exact absurd rfl h.1

/-- Behind the end nothing adds to the content. -/
lemma content_append_of_mem {arrivals : List Arrival} (h : .eof ∈ arrivals) (more : List Arrival) :
    content (arrivals ++ more) = content arrivals := by
  induction arrivals with
  | nil => simp at h
  | cons a arrivals ih =>
    cases a with
    | data bytes =>
      have hrest := ih (by simpa using h)
      simp [content, hrest]
    | fault fault => exact ih (by simpa using h)
    | eof => rfl

/-- What has arrived stays at the front of the content. -/
lemma content_prefix_append (arrivals more : List Arrival) :
    content arrivals <+: content (arrivals ++ more) := by
  by_cases h : .eof ∈ arrivals
  · rw [content_append_of_mem h]
  · rw [content_append_of_not_mem h]
    exact List.prefix_append _ _

/-- Behind these bytes of a stream, this is left of it. -/
structure Leaves (arrived : List Arrival) (taken : Bytes) (left : List Arrival) : Prop where
  content_eq : content arrived = taken ++ content left
  eof_mem_iff : .eof ∈ left ↔ .eof ∈ arrived

variable {arrived left : List Arrival} {taken : Bytes}

/-- What has been taken is the front of the content. -/
lemma Leaves.taken_prefix (h : Leaves arrived taken left) : taken <+: content arrived := by
  rw [h.content_eq]
  exact List.prefix_append _ _

/-- What arrives gets behind what is left. -/
lemma Leaves.append (h : Leaves arrived taken left) (more : List Arrival) :
    Leaves (arrived ++ more) taken (left ++ more) := by
  refine ⟨?_, by rw [List.mem_append, List.mem_append, h.eof_mem_iff]⟩
  by_cases hend : .eof ∈ arrived
  · rw [content_append_of_mem hend, content_append_of_mem (h.eof_mem_iff.mpr hend), h.content_eq]
  · rw [content_append_of_not_mem hend, content_append_of_not_mem (mt h.eof_mem_iff.mp hend),
      h.content_eq, List.append_assoc]

/-- What arrives at a source gets behind what is left in it. -/
lemma Leaves.arrive {s : Source} (h : Leaves arrived taken s.arrivals) (a : Arrival) :
    Leaves (arrived ++ [a]) taken (s.arrive a).arrivals := by
  have happend := h.append [a]
  unfold Source.arrive
  split
  · -- An empty chunk is nothing.
    have hempty : content (s.arrivals ++ [.data []]) = content s.arrivals := by
      by_cases hend : .eof ∈ s.arrivals
      · exact content_append_of_mem hend _
      · rw [content_append_of_not_mem hend]
        exact List.append_nil _
    have hcontent := happend.content_eq
    rw [hempty] at hcontent
    exact ⟨hcontent, by simpa using happend.eof_mem_iff⟩
  · exact happend

/-- Reading takes from the front of what is left. -/
lemma Leaves.read {s s' : Source} (h : Leaves arrived taken s.arrivals) {room : Nat} {bytes : Bytes}
    (hread : s.readUpTo room = (.chunk bytes, s')) : Leaves arrived (taken ++ bytes) s'.arrivals := by
  have hcontent := h.content_eq
  have heof := h.eof_mem_iff
  unfold Source.readUpTo Source.read at hread
  cases hs : s.arrivals with
  | nil => simp [hs] at hread
  | cons a rest =>
    rw [hs] at hcontent heof
    cases a with
    | eof => simp [hs] at hread
    | fault fault => simp [hs] at hread
    | data chunk =>
      simp only [hs] at hread
      split at hread <;> cases hread
      · exact ⟨by rw [hcontent, List.append_assoc]; rfl, by simpa using heof⟩
      · refine ⟨?_, by simpa using heof⟩
        rw [hcontent, List.append_assoc]
        simp [content, ← List.append_assoc]

/-- A fault that is read takes nothing from the content. -/
lemma Leaves.fault {s s' : Source} (h : Leaves arrived taken s.arrivals) {room : Nat} {fault : IoFault}
    (hread : s.readUpTo room = (.fault fault, s')) : Leaves arrived taken s'.arrivals := by
  have hcontent := h.content_eq
  have heof := h.eof_mem_iff
  unfold Source.readUpTo Source.read at hread
  cases hs : s.arrivals with
  | nil => simp [hs] at hread
  | cons a rest =>
    rw [hs] at hcontent heof
    cases a with
    | eof => simp [hs] at hread
    | data chunk =>
      simp only [hs] at hread
      split at hread <;> cases hread
    | fault reason =>
      simp only [hs] at hread
      cases hread
      exact ⟨hcontent, by simpa using heof⟩

/-- The end that is read stays where it is. -/
lemma exists_of_read_eof {s s' : Source} {room : Nat} (hread : s.readUpTo room = (.eof, s')) :
    s' = s ∧ ∃ rest, s.arrivals = .eof :: rest := by
  unfold Source.readUpTo Source.read at hread
  cases hs : s.arrivals with
  | nil => simp [hs] at hread
  | cons a rest =>
    cases a with
    | eof =>
      simp only [hs] at hread
      cases hread
      exact ⟨rfl, rest, rfl⟩
    | fault reason => simp [hs] at hread
    | data chunk =>
      simp only [hs] at hread
      split at hread <;> cases hread

end Arrival

/-! ### What a relay has written -/

namespace Relay

open Arrival

variable {arrived : List Arrival} {r : Relay} {s : Source} {k : Sink}

/-- The diagnostics have ended, and a sink holds all of their content, flushed. -/
structure Holds (arrived : List Arrival) (k : Sink) : Prop where
  eof_mem : .eof ∈ arrived
  written_eq : k.written = content arrived
  flushed_eq : k.flushed = k.written.length

/-- A relay in its loop, in relation to all that has arrived. -/
structure Copies (arrived : List Arrival) (r : Relay) (s : Source) (k : Sink) : Prop where
  /-- Nothing has been lost, repeated or moved. -/
  leaves : Leaves arrived (k.written ++ r.buffer) s.arrivals
  arrivals_of_isEnded : r.isEnded = true → ∃ rest, s.arrivals = .eof :: rest
  flushed_eq : r.isDirty = false → k.flushed = k.written.length

/-- A relay in relation to all that has arrived. -/
structure Follows (arrived : List Arrival) (r : Relay) (s : Source) (k : Sink) : Prop where
  counted : k.IsCounted
  copies : r.isCopying = true → Copies arrived r s k
  /-- A good end is only reported of content that the sink holds. -/
  holds : r.phase = .flushing false ∨ r.phase = .posting none → Holds arrived k
  written_prefix : k.written <+: content arrived

/-- Flushing once more does no harm. -/
lemma Holds.flush (h : Holds arrived k) (hk : k.IsCounted) : Holds arrived k.flush.2 := by
  rcases k.flush_cases with hgood | ⟨fault, rest, -, hbad⟩
  · rw [hgood]
    exact ⟨h.eof_mem, h.written_eq, hk⟩
  · rw [hbad]
    exact ⟨h.eof_mem, h.written_eq, h.flushed_eq⟩

/-- Nothing that comes behind the end matters. -/
lemma Holds.append (h : Holds arrived k) (more : List Arrival) : Holds (arrived ++ more) k where
  eof_mem := List.mem_append_left _ h.eof_mem
  written_eq := by rw [content_append_of_mem h.eof_mem, h.written_eq]
  flushed_eq := h.flushed_eq

/-- Turning to something else moves no byte, and takes no account of the reads that are left. -/
lemma Copies.turn (h : Copies arrived r s k) (phase : Phase) (budget : Nat) :
    Copies arrived { r with phase, budget } s k :=
  ⟨h.leaves, h.arrivals_of_isEnded, h.flushed_eq⟩

/-- The relation of a relay that stays in its loop. -/
lemma Copies.follows (h : Copies arrived r s k) (hk : k.IsCounted) (hr : r.isCopying = true) :
    Follows arrived r s k where
  counted := hk
  copies _ := h
  holds hphase := by
    rcases hphase with hphase | hphase <;> simp [isCopying, hphase] at hr
  written_prefix := (List.prefix_append _ _).trans h.leaves.taken_prefix

/-- The relation of a relay that has left its loop and has no good end to report. -/
lemma follows_of_prefix (hk : k.IsCounted) (hfront : k.written <+: content arrived)
    (hr : r.isCopying = false) (hflushing : r.phase ≠ .flushing false)
    (hposting : r.phase ≠ .posting none) : Follows arrived r s k where
  counted := hk
  copies hcopying := by simp [hr] at hcopying
  holds hphase := by
    rcases hphase with hphase | hphase
    · exact absurd hphase hflushing
    · exact absurd hphase hposting
  written_prefix := hfront

/-- A relay that has not begun. -/
lemma follows_start : Follows [] {} {} {} :=
  Copies.follows ⟨⟨rfl, Iff.rfl⟩, by simp, fun _ => rfl⟩ rfl rfl

/-- A relay that finds something other than the end has not found the end before. -/
lemma Copies.isEnded_eq_false (h : Copies arrived r s k) {room : Nat} (hread : (s.readUpTo room).1 ≠ .eof) :
    r.isEnded = false := by
  by_contra hended
  obtain ⟨rest, hs⟩ := h.arrivals_of_isEnded (by simpa using hended)
  exact hread (by simp [Source.readUpTo, Source.read, hs])

/-- Bytes that are read get from the stream to the end of the buffer. -/
lemma Copies.take (h : Copies arrived r s k) {bytes : Bytes} {s' : Source}
    (hread : s.readUpTo r.room = (.chunk bytes, s')) : Copies arrived (r.take bytes) s' k := by
  have hfound : (s.readUpTo r.room).1 ≠ .eof := by simp [hread]
  have hended := h.isEnded_eq_false hfound
  refine ⟨?_, fun hend => ?_, h.flushed_eq⟩
  · have hleaves := h.leaves.read hread
    rwa [List.append_assoc] at hleaves
  · exact absurd (hended.symm.trans hend) (by simp)

/-- Bytes that are written get from the front of the buffer to the sink. -/
lemma Copies.give (h : Copies arrived r s k) {count : Nat} {k' : Sink}
    (hwrite : k.offer r.buffer = (.taken count, k')) :
    Copies arrived { r with buffer := r.buffer.drop count, isDirty := true } s k' := by
  have hwritten := k.written_offer r.buffer
  rw [hwrite] at hwritten
  have hmoved : k'.written ++ r.buffer.drop count = k.written ++ r.buffer := by
    rw [hwritten, List.append_assoc, List.take_append_drop]
  exact ⟨by rw [hmoved]; exact h.leaves, h.arrivals_of_isEnded, by simp⟩

/-- A fault that is read moves no byte. -/
lemma Copies.fault_read (h : Copies arrived r s k) {fault : IoFault} {s' : Source}
    (hread : s.readUpTo r.room = (.fault fault, s')) : Copies arrived r s' k := by
  have hfound : (s.readUpTo r.room).1 ≠ .eof := by simp [hread]
  have hended := h.isEnded_eq_false hfound
  exact ⟨h.leaves.fault hread, fun hend => absurd (hended.symm.trans hend) (by simp), h.flushed_eq⟩

/-- Nor does an offer of which nothing is taken. -/
lemma Copies.offer (h : Copies arrived r s k) {k' : Sink} {result : WriteResult}
    (hwrite : k.offer r.buffer = (result, k')) (hnone : ∀ n, result ≠ .taken n) :
    Copies arrived r s k' := by
  obtain ⟨hflushed, -⟩ := k.kept_offer r.buffer
  have hwritten : k'.written = k.written := by
    have hall := k.written_offer r.buffer
    rw [hwrite] at hall
    cases result with
    | taken n => exact absurd rfl (hnone n)
    | nothing | fault fault | pending => exact hall
  rw [hwrite] at hflushed
  refine ⟨?_, h.arrivals_of_isEnded, ?_⟩
  · rw [hwritten]
    exact h.leaves
  · rw [hwritten, hflushed]
    exact h.flushed_eq

/-- A flush that succeeds covers all that has been written. -/
lemma Copies.flush (h : Copies arrived r s k) (hk : k.IsCounted) {k' : Sink} (hflush : k.flush = (none, k'))
    (phase : Phase) : Copies arrived { r with isDirty := false, phase } s k' := by
  have hwritten := k.written_flush
  have hflushed := hk.flushed_eq (by rw [hflush])
  rw [hflush] at hwritten hflushed
  exact ⟨by rw [hwritten]; exact h.leaves, h.arrivals_of_isEnded, fun _ => hflushed⟩

/-- With nothing left to write, a sink holds all of the content once it has been flushed. -/
lemma Copies.holds (h : Copies arrived r s k) (hbuffer : r.buffer = []) (hended : r.isEnded = true)
    (hdirty : r.isDirty = false) : Holds arrived k := by
  obtain ⟨rest, hs⟩ := h.arrivals_of_isEnded hended
  have hcontent := h.leaves.content_eq
  rw [hbuffer, hs, List.append_nil] at hcontent
  exact ⟨h.leaves.eof_mem_iff.mp (by simp [hs]), by rw [hcontent]; exact (List.append_nil _).symm,
    h.flushed_eq hdirty⟩

/-- Whatever a relay does keeps the relation. -/
theorem Follows.step {isShutdown : Bool} {m : Move} (h : Follows arrived r s k)
    (hstep : r.step isShutdown s k = some m) : Follows arrived m.relay m.stderr m.sink := by
  have hcounted := h.counted
  have hgiven := hcounted.offer r.buffer
  have hflushed := hcounted.flush
  cases motion_of_step hstep with
  | turn hbefore hafter _ hrelay hstderr hsink _ =>
    have hturn : ∀ {k'}, Copies arrived r s k' → Copies arrived m.relay s k' := by
      intro k' hcopies
      rw [hrelay]
      exact hcopies.turn _ _
    have hcopies := h.copies hbefore
    rw [hstderr]
    rcases hsink with hsink | hsink | hwrite
    · rw [hsink]
      exact (hturn hcopies).follows hcounted hafter
    · have hcalm : Copies arrived r s k.calm :=
        ⟨hcopies.leaves, hcopies.arrivals_of_isEnded, hcopies.flushed_eq⟩
      rw [hsink]
      exact (hturn hcalm).follows hcounted hafter
    · rw [hwrite] at hgiven
      exact (hturn (hcopies.offer hwrite (by simp))).follows hgiven hafter
  | take bytes hbefore hafter hread _ hrelay hsink _ =>
    have hcopies := ((h.copies hbefore).take hread).turn m.relay.phase m.relay.budget
    rw [← hrelay] at hcopies
    rw [hsink]
    exact hcopies.follows hcounted hafter
  | finish hbefore hafter hread _ hrelay hsink _ =>
    obtain ⟨hleaves, -, hclean⟩ := h.copies hbefore
    obtain ⟨hstderr, hend⟩ := exists_of_read_eof hread
    rw [hsink, hstderr]
    refine Copies.follows ?_ hcounted hafter
    rw [hrelay]
    exact ⟨hleaves, fun _ => hend, hclean⟩
  | give count hbefore hwrite _ hrelay hstderr _ =>
    rw [hwrite] at hgiven
    rw [hrelay, hstderr]
    exact ((h.copies hbefore).give hwrite).follows hgiven hbefore
  | retry fault hbefore _ hfault hrelay _ =>
    rw [hrelay]
    rcases hfault with ⟨hread, hsink⟩ | ⟨hwrite, hstderr⟩
    · rw [hsink]
      exact (((h.copies hbefore).fault_read hread).turn r.phase _).follows hcounted hbefore
    · rw [hwrite] at hgiven
      rw [hstderr]
      exact (((h.copies hbefore).offer hwrite (by simp)).turn r.phase _).follows hgiven hbefore
  | fail fault hbefore _ hfault hrelay _ =>
    have hsink : m.sink.IsCounted ∧ m.sink.written = k.written := by
      have hwritten := k.written_offer r.buffer
      rcases hfault with ⟨-, hsink⟩ | ⟨hwrite | hwrite, -⟩ | ⟨hflush, -⟩
      · rw [hsink]
        exact ⟨hcounted, rfl⟩
      · rw [hwrite] at hwritten hgiven
        exact ⟨hgiven, hwritten⟩
      · rw [hwrite] at hwritten hgiven
        exact ⟨hgiven, hwritten⟩
      · have hsame := k.written_flush
        rw [hflush] at hflushed hsame
        exact ⟨hflushed, hsame⟩
    rw [hrelay]
    refine follows_of_prefix hsink.1 ?_ rfl (by simp [Relay.fail]) (by simp [Relay.fail])
    rw [hsink.2]
    exact h.written_prefix
  | flush hbefore _ hflush hrelay hstderr _ =>
    have hcopies := (h.copies hbefore).flush hcounted hflush .idle
    rw [hflush] at hflushed
    rw [hrelay, hstderr]
    exact hcopies.follows hflushed rfl
  | conclude hbefore _ hbuffer hended hflush hrelay hstderr _ =>
    have hholds := ((h.copies hbefore).flush hcounted hflush (.flushing false)).holds hbuffer hended rfl
    rw [hflush] at hflushed
    refine ⟨hflushed, by simp [hrelay, isCopying], fun _ => hholds, ?_⟩
    rw [hholds.written_eq]
  | stop hbefore _ hm =>
    rw [hm]
    exact follows_of_prefix hcounted h.written_prefix rfl (by simp) (by simp)
  | settle isStopped hbefore hm =>
    have hwritten : k.flush.2.written <+: content arrived := by
      rw [k.written_flush]
      exact h.written_prefix
    rw [hm]
    cases isStopped with
    | true => exact follows_of_prefix hflushed hwritten rfl (by simp) (by simp)
    | false =>
      have hholds := (h.holds (.inl hbefore)).flush hcounted
      exact ⟨hflushed, by simp [isCopying], fun _ => hholds, hwritten⟩
  | post failure? hbefore hm =>
    rw [hm]
    exact follows_of_prefix hcounted h.written_prefix rfl (by simp) (by simp)
  | release hold hbefore hm =>
    rw [hm]
    cases hold <;> exact follows_of_prefix hcounted h.written_prefix rfl (by simp [Hold.next])
      (by simp [Hold.next])

/-- A step uses up faults that lie in wait for flushes, in their order. -/
lemma flushFaults_of_step {isShutdown : Bool} {m : Move} (hstep : r.step isShutdown s k = some m) :
    m.sink.flushFaults <:+ k.flushFaults := by
  rcases sink_of_step hstep with hsink | hsink | hsink | hsink
  · rw [hsink]
  · rw [hsink, Sink.calm]
  · rw [hsink, (k.kept_offer r.buffer).2.1]
  · rcases k.flush_cases with hgood | ⟨fault, rest, hfaults, hbad⟩
    · rw [hsink, hgood]
    · rw [hsink, hbad, hfaults]
      exact List.suffix_cons _ _

/-- What arrives for a relay keeps the relation. -/
lemma Follows.arrive (h : Follows arrived r s k) (a : Arrival) :
    Follows (arrived ++ [a]) r (s.arrive a) k where
  counted := h.counted
  copies hr := by
    obtain ⟨hleaves, hended, hflushed⟩ := h.copies hr
    refine ⟨hleaves.arrive a, fun heof => ?_, hflushed⟩
    obtain ⟨rest, hs⟩ := hended heof
    exact eof_arrive hs a
  holds hphase := (h.holds hphase).append [a]
  written_prefix := h.written_prefix.trans (content_prefix_append _ _)

/-- What arrives for a relay that has left its loop may be lost. -/
lemma Follows.append (h : Follows arrived r s k) (hr : r.isCopying = false) (more : List Arrival) :
    Follows (arrived ++ more) r s k where
  counted := h.counted
  copies hcopying := by simp [hr] at hcopying
  holds hphase := (h.holds hphase).append more
  written_prefix := h.written_prefix.trans (content_prefix_append _ _)

/-- What happens at the far side of the sink keeps the relation. -/
lemma Follows.apply (h : Follows arrived r s k) (e : SinkEvent) : Follows arrived r s (k.apply e) := by
  have hflushed : (k.apply e).flushed = k.flushed := by cases e <;> rfl
  refine ⟨h.counted.apply e, fun hr => ?_, fun hphase => ?_, ?_⟩
  · obtain ⟨hleaves, hended, hcovered⟩ := h.copies hr
    exact ⟨by rwa [k.written_apply], hended, by rwa [k.written_apply, hflushed]⟩
  · obtain ⟨heof, hwritten, hcovered⟩ := h.holds hphase
    exact ⟨heof, by rwa [k.written_apply], by rwa [k.written_apply, hflushed]⟩
  · rw [k.written_apply]
    exact h.written_prefix

end Relay

/-! ### Courses -/

namespace RelayRig

open Arrival Relay

/-- One turn of a course. -/
inductive Turn
  | event (event : Event)
  /-- The relay takes a step, if it can. -/
  | relay
deriving DecidableEq, Repr

/-- What arrives from the engine in a turn. -/
def Turn.arrival? : Turn → Option Arrival
  | event (.arrival a) => some a
  | _ => none

/-- The fault that a turn lays in wait for a flush. -/
def Turn.flushFault? : Turn → Option IoFault
  | event (.sink (.flushFault reason)) => some reason
  | _ => none

/-- What arrives from the engine in a course. -/
def arrivals (turns : List Turn) : List Arrival :=
  turns.filterMap Turn.arrival?

/-- The faults that a course lays in wait for flushes. -/
def flushFaults (turns : List Turn) : List IoFault :=
  turns.filterMap Turn.flushFault?

/-- A rig after a turn. -/
def turn (rig : RelayRig) : Turn → RelayRig
  | .event e => rig.apply e
  | .relay => rig.step.getD rig

/-- A rig after a course. -/
def course (rig : RelayRig) (turns : List Turn) : RelayRig :=
  turns.foldl turn rig

/-- The notices, in order. -/
def notices (rig : RelayRig) : List Notice :=
  rig.noticesRev.reverse

/-- Whether the relay finds the session being shut down when it looks for that. -/
def isStopped (rig : RelayRig) : Bool :=
  rig.isShutdown && rig.relay.isWaiting

/-- The relay has found the session being shut down at some moment of a course. -/
def WasStopped (turns : List Turn) : Prop :=
  ∃ before, before <+: turns ∧ (({} : RelayRig).course before).isStopped = true

/-- No flush has failed in a course: the faults that lay in wait for flushes still do. -/
def NoFlushFailed (turns : List Turn) : Prop :=
  (({} : RelayRig).course turns).sink.flushFaults = flushFaults turns

lemma course_concat (rig : RelayRig) (turns : List Turn) (t : Turn) :
    rig.course (turns ++ [t]) = (rig.course turns).turn t := by
  simp [course]

lemma arrivals_concat (turns : List Turn) (t : Turn) :
    arrivals (turns ++ [t]) = arrivals turns ++ t.arrival?.toList := by
  unfold arrivals
  rw [List.filterMap_append]
  cases h : t.arrival? <;> simp [h]

lemma flushFaults_concat (turns : List Turn) (t : Turn) :
    flushFaults (turns ++ [t]) = flushFaults turns ++ t.flushFault?.toList := by
  unfold flushFaults
  rw [List.filterMap_append]
  cases h : t.flushFault? <;> simp [h]

/-- What arrives reaches the relay unless it has let go of the stream. -/
lemma apply_arrival (rig : RelayRig) (a : Arrival) : rig.apply (.arrival a) =
    if rig.isStderrClosed then rig else { rig with stderr := rig.stderr.arrive a } := rfl

/-- What happens at the far side matters if there is one. -/
lemma apply_sink (rig : RelayRig) (e : SinkEvent) : rig.apply (.sink e) =
    if rig.hasSink then { rig with sink := rig.sink.apply e } else rig := rfl

/-- A shutdown that has been found stays found. -/
lemma WasStopped.append {turns : List Turn} (h : WasStopped turns) (more : List Turn) :
    WasStopped (turns ++ more) := by
  obtain ⟨before, hbefore, hstopped⟩ := h
  exact ⟨before, hbefore.trans (List.prefix_append _ _), hstopped⟩

/-- As long as there is a way back into the loop, nothing has been heard of the relay. -/
structure Keeps (arrived : List Arrival) (queued : List IoFault) (rig : RelayRig) : Prop where
  follows : rig.relay.Follows arrived rig.stderr rig.sink
  hasSink : rig.hasSink = true
  /-- Faults that lay in wait for flushes are used up in their order. -/
  flushFaults_suffix : rig.sink.flushFaults <:+ queued
  rank_of_isStderrClosed : rig.isStderrClosed = true → rig.relay.rank = 4
  /-- A notice is the last thing to be heard, and a good one is true. -/
  of_notice : ∀ n ∈ rig.noticesRev,
    rig.noticesRev = [n] ∧ 1 ≤ rig.relay.rank ∧ (n.failure? = none → Holds arrived rig.sink)

variable {arrived : List Arrival} {queued : List IoFault} {rig rig' : RelayRig}

/-- The invariant holds at the start. -/
lemma keeps_start : Keeps [] [] {} where
  follows := follows_start
  hasSink := rfl
  flushFaults_suffix := List.suffix_rfl
  rank_of_isStderrClosed := by simp
  of_notice := by simp

/-- Nothing has been heard of a relay that has not let go of anything. -/
lemma Keeps.noticesRev_eq (h : Keeps arrived queued rig) (hrank : rig.relay.rank = 0) :
    rig.noticesRev = [] := by
  refine List.eq_nil_iff_forall_not_mem.mpr fun n hn => ?_
  have := (h.of_notice n hn).2.1
  omega

/-- A relay lets go of the stream last. -/
lemma Keeps.isStderrClosed_eq (h : Keeps arrived queued rig) (hrank : rig.relay.rank ≠ 4) :
    rig.isStderrClosed = false := by
  by_contra hclosed
  exact hrank (h.rank_of_isStderrClosed (by simpa using hclosed))

/-- What happens around a relay keeps the invariant. -/
lemma Keeps.apply (h : Keeps arrived queued rig) (e : Event) :
    Keeps (arrived ++ (Turn.event e).arrival?.toList) (queued ++ (Turn.event e).flushFault?.toList)
      (rig.apply e) := by
  cases e with
  | arrival a =>
    have hqueued : queued ++ (Turn.event (.arrival a)).flushFault?.toList = queued := List.append_nil _
    have hnotice : ∀ n ∈ rig.noticesRev, rig.noticesRev = [n] ∧ 1 ≤ rig.relay.rank ∧
        (n.failure? = none → Holds (arrived ++ [a]) rig.sink) := by
      intro n hn
      obtain ⟨hone, hrank, hholds⟩ := h.of_notice n hn
      exact ⟨hone, hrank, fun hnone => (hholds hnone).append [a]⟩
    rw [hqueued, apply_arrival]
    by_cases hclosed : rig.isStderrClosed = true
    · -- What arrives is lost, but the relay is done.
      have hrank := h.rank_of_isStderrClosed hclosed
      have hcopying : rig.relay.isCopying = false := by
        unfold rank at hrank
        unfold isCopying
        split at hrank <;> simp_all
      rw [if_pos hclosed]
      exact { h with follows := h.follows.append hcopying [a], of_notice := hnotice }
    · rw [if_neg hclosed]
      exact { h with follows := h.follows.arrive a, of_notice := hnotice }
  | sink e =>
    have harrived : arrived ++ (Turn.event (.sink e)).arrival?.toList = arrived := List.append_nil _
    have hsuffix : (rig.sink.apply e).flushFaults <:+
        queued ++ (Turn.event (.sink e)).flushFault?.toList := by
      have hkept : rig.sink.flushFaults <:+ queued ++ [] := by
        rw [List.append_nil]
        exact h.flushFaults_suffix
      cases e with
      | flushFault reason =>
        obtain ⟨used, hused⟩ := h.flushFaults_suffix
        exact ⟨used, by simp [Sink.apply, Sink.change, Turn.flushFault?, ← hused]⟩
      | budget count | maxWrite count | writeFault reason position | broken reason => exact hkept
    rw [harrived, apply_sink, if_pos h.hasSink]
    refine { h with follows := h.follows.apply e, flushFaults_suffix := hsuffix, of_notice := ?_ }
    intro n hn
    obtain ⟨hone, hrank, hholds⟩ := h.of_notice n hn
    refine ⟨hone, hrank, fun hnone => ?_⟩
    obtain ⟨heof, hwritten, hflushed⟩ := hholds hnone
    have hsame : (rig.sink.apply e).flushed = rig.sink.flushed := by cases e <;> rfl
    exact ⟨heof, by rwa [Sink.written_apply], by rwa [Sink.written_apply, hsame]⟩
  | shutdown =>
    change Keeps (arrived ++ []) (queued ++ []) { rig with isShutdown := true }
    rw [List.append_nil, List.append_nil]
    exact { h with }
  | dropNotices =>
    change Keeps (arrived ++ []) (queued ++ []) { rig with hasListener := false }
    rw [List.append_nil, List.append_nil]
    exact { h with }

/-- A step of the relay keeps the invariant. -/
lemma Keeps.step (h : Keeps arrived queued rig) (hstep : rig.step = some rig') :
    Keeps arrived queued rig' := by
  unfold RelayRig.step at hstep
  obtain ⟨m, hmove, rfl⟩ := Option.map_eq_some_iff.mp hstep
  have hfollows := h.follows.step hmove
  have hsuffix := (flushFaults_of_step hmove).trans h.flushFaults_suffix
  have hrank := rank_of_step hmove
  have hinner : m.act = .inner → Keeps arrived queued
      (({ rig with relay := m.relay, stderr := m.stderr, sink := m.sink } : RelayRig).witness m.act) := by
    intro hact
    rw [hact] at hrank ⊢
    obtain ⟨hbefore, -⟩ := hrank
    have hopen := h.isStderrClosed_eq (by omega)
    exact
      { follows := hfollows
        hasSink := h.hasSink
        flushFaults_suffix := hsuffix
        rank_of_isStderrClosed := fun hc => by simp [witness, hopen] at hc
        of_notice := fun n hn => by simp [witness, h.noticesRev_eq hbefore] at hn }
  rcases step_cases hmove with
    ⟨-, hact, -⟩ | ⟨isStopped, -, hm⟩ | ⟨failure?, hphase, rfl⟩ | ⟨hold, -, rfl⟩
  · exact hinner hact
  · exact hinner (by rw [hm])
  · obtain ⟨hbefore, hafter⟩ := hrank
    have hnone := h.noticesRev_eq hbefore
    have hopen := h.isStderrClosed_eq (by omega)
    unfold witness
    by_cases hlistener : rig.hasListener = true
    · simp only [hlistener, if_true]
      exact
        { follows := hfollows
          hasSink := h.hasSink
          flushFaults_suffix := hsuffix
          rank_of_isStderrClosed := fun hc => by simp [hopen] at hc
          of_notice := fun n hn => by
            have hn' : n = ⟨.relay, failure?⟩ := by simpa [hnone] using hn
            subst hn'
            refine ⟨by simp [hnone], hafter.ge, fun hgood => ?_⟩
            obtain rfl : failure? = none := hgood
            exact h.follows.holds (.inr hphase) }
    · simp only [hlistener, Bool.false_eq_true, if_false]
      exact
        { follows := hfollows
          hasSink := h.hasSink
          flushFaults_suffix := hsuffix
          rank_of_isStderrClosed := fun hc => by simp [hopen] at hc
          of_notice := fun n hn => by simp [hnone] at hn }
  · -- What has been heard stays true of a sink that nobody writes to.
    have hnotice : ∀ n ∈ rig.noticesRev, rig.noticesRev = [n] ∧
        1 ≤ ({ rig.relay with phase := hold.next } : Relay).rank ∧
          (n.failure? = none → Holds arrived rig.sink) := by
      intro n hn
      obtain ⟨hone, -, hholds⟩ := h.of_notice n hn
      exact ⟨hone, by cases hold <;> simp [rank, Hold.next], hholds⟩
    cases hold with
    | stderr =>
      exact
        { follows := hfollows
          hasSink := h.hasSink
          flushFaults_suffix := hsuffix
          rank_of_isStderrClosed := fun _ => hrank.2
          of_notice := hnotice }
    | sink | notices =>
      have hopen := h.isStderrClosed_eq (by rw [hrank.1]; decide)
      exact
        { follows := hfollows
          hasSink := h.hasSink
          flushFaults_suffix := hsuffix
          rank_of_isStderrClosed := fun hc => by simp [witness, hopen] at hc
          of_notice := hnotice }

/-- The invariant holds after every course. -/
theorem keeps_course (turns : List Turn) :
    Keeps (arrivals turns) (flushFaults turns) (({} : RelayRig).course turns) := by
  induction turns using List.reverseRecOn with
  | nil => exact keeps_start
  | append_singleton turns t ih =>
    rw [course_concat, arrivals_concat, flushFaults_concat]
    cases t with
    | event e => exact ih.apply e
    | relay =>
      change Keeps (arrivals turns ++ []) (flushFaults turns ++ []) _
      rw [List.append_nil, List.append_nil]
      unfold turn
      cases hstep : (({} : RelayRig).course turns).step with
      | none => exact ih
      | some rig' => exact ih.step hstep

/-! ### Shutdowns -/

/-- A relay that has found the session being shut down.  It says nothing more, and when it lets go of the
sink, all that is in there has been flushed or the last flush has failed. -/
structure Stopped (queued : List IoFault) (rig : RelayRig) : Prop where
  isShutdown : rig.isShutdown = true
  noticesRev_eq : rig.noticesRev = []
  stage : rig.relay.isWaiting = true ∨ rig.relay.phase = .flushing true ∨ 1 ≤ rig.relay.rank
  flushed : 1 ≤ rig.relay.rank →
    rig.sink.flushed = rig.sink.written.length ∨ rig.sink.flushFaults.length < queued.length

/-- What happens around a stopped relay leaves it stopped. -/
lemma Stopped.apply (h : Stopped queued rig) (hsink : rig.hasSink = true) (e : Event) :
    Stopped (queued ++ (Turn.event e).flushFault?.toList) (rig.apply e) := by
  cases e with
  | arrival a =>
    change Stopped (queued ++ []) _
    rw [List.append_nil, apply_arrival]
    split
    · exact h
    · exact { h with }
  | sink e =>
    rw [apply_sink, if_pos hsink]
    refine { h with flushed := fun hrank => ?_ }
    have hsame : (rig.sink.apply e).flushed = rig.sink.flushed := by cases e <;> rfl
    rw [Sink.written_apply, hsame]
    refine (h.flushed hrank).imp id fun hlt => ?_
    cases e with
    | flushFault reason => simpa [Sink.apply, Sink.change, Turn.flushFault?] using hlt
    | budget count | maxWrite count | writeFault reason position | broken reason =>
      simpa [Sink.apply, Sink.change, Turn.flushFault?] using hlt
  | shutdown =>
    change Stopped (queued ++ []) { rig with isShutdown := true }
    rw [List.append_nil]
    exact { h with isShutdown := rfl }
  | dropNotices =>
    change Stopped (queued ++ []) { rig with hasListener := false }
    rw [List.append_nil]
    exact { h with }

/-- A step of a stopped relay leaves it stopped. -/
lemma Stopped.step (h : Stopped queued rig) (hkeeps : Keeps arrived queued rig)
    (hstep : rig.step = some rig') : Stopped queued rig' := by
  unfold RelayRig.step at hstep
  obtain ⟨m, hmove, rfl⟩ := Option.map_eq_some_iff.mp hstep
  have hwaits : rig.relay.isCopying = true → rig.relay.isWaiting = true := by
    intro hcopying
    rcases h.stage with hwaiting | hflushing | hrank
    · exact hwaiting
    · simp [isCopying, hflushing] at hcopying
    · unfold isCopying at hcopying
      unfold rank at hrank
      split at hcopying <;> simp_all
  have hnot : rig.relay.isCopying = true → rig.relay.isWaiting = false → False :=
    fun hcopying hwaiting => by simp [hwaits hcopying] at hwaiting
  cases motion_of_step hmove with
  | turn hbefore _ hshut _ _ _ _ => exact absurd (h.isShutdown.symm.trans (hshut (hwaits hbefore))) (by simp)
  | take _ hbefore _ _ hshut _ _ _ => exact (hnot hbefore hshut).elim
  | finish hbefore _ _ hshut _ _ _ => exact (hnot hbefore hshut).elim
  | give _ hbefore _ hshut _ _ _ => exact (hnot hbefore hshut).elim
  | retry _ hbefore hshut _ _ _ => exact (hnot hbefore hshut).elim
  | fail _ hbefore hshut _ _ _ => exact (hnot hbefore hshut).elim
  | flush hbefore hshut _ _ _ _ => exact (hnot hbefore hshut).elim
  | conclude hbefore hshut _ _ _ _ _ _ => exact (hnot hbefore hshut).elim
  | stop _ _ hm =>
    rw [hm]
    exact ⟨h.isShutdown, h.noticesRev_eq, .inr (.inl rfl),
      fun hrank => absurd hrank (by simp [witness, rank])⟩
  | settle isStopped hbefore hm =>
    obtain rfl : isStopped = true := by
      rcases h.stage with hwaiting | hflushing | hrank
      · simp [isWaiting, hbefore] at hwaiting
      · simpa [hbefore] using hflushing
      · simp [rank, hbefore] at hrank
    have hcounted := hkeeps.follows.counted
    rw [hm]
    refine ⟨h.isShutdown, h.noticesRev_eq, .inr (.inr (by simp [witness, rank])), fun _ => ?_⟩
    change rig.sink.flush.2.flushed = rig.sink.flush.2.written.length ∨
      rig.sink.flush.2.flushFaults.length < queued.length
    rcases rig.sink.flush_cases with hgood | ⟨reason, rest, hfaults, hbad⟩
    · left
      rw [hgood]
      exact hcounted
    · right
      have hle := hkeeps.flushFaults_suffix.length_le
      rw [hfaults, List.length_cons] at hle
      rw [hbad]
      exact hle
  | post failure? hbefore hm =>
    rcases h.stage with hwaiting | hflushing | hrank
    · simp [isWaiting, hbefore] at hwaiting
    · simp [hbefore] at hflushing
    · simp [rank, hbefore] at hrank
  | release hold hbefore hm =>
    have hrank : 1 ≤ rig.relay.rank := by cases hold <;> simp [rank, hbefore]
    rw [hm]
    cases hold <;>
      exact ⟨h.isShutdown, h.noticesRev_eq, .inr (.inr (by simp [witness, rank, Hold.next])),
        fun _ => h.flushed hrank⟩

/-- A relay that has found the session being shut down is stopped from then on. -/
lemma stopped_course {before : List Turn} (h : (({} : RelayRig).course before).isStopped = true)
    (after : List Turn) :
    Stopped (flushFaults (before ++ after)) (({} : RelayRig).course (before ++ after)) := by
  induction after using List.reverseRecOn with
  | nil =>
    rw [List.append_nil]
    unfold isStopped at h
    rw [Bool.and_eq_true] at h
    have hrank : (({} : RelayRig).course before).relay.rank = 0 := by
      have hwaiting := h.2
      unfold isWaiting at hwaiting
      unfold rank
      split at hwaiting <;> simp_all
    exact ⟨h.1, (keeps_course before).noticesRev_eq hrank, .inl h.2, fun hlet => by omega⟩
  | append_singleton after t ih =>
    have hkeeps := keeps_course (before ++ after)
    rw [← List.append_assoc, course_concat, flushFaults_concat]
    cases t with
    | event e => exact ih.apply hkeeps.hasSink e
    | relay =>
      change Stopped (flushFaults (before ++ after) ++ []) _
      rw [List.append_nil]
      unfold turn
      cases hstep : (({} : RelayRig).course (before ++ after)).step with
      | none => exact ih
      | some rig' => exact ih.step hkeeps hstep

/-- A relay that has not been stopped does not end without a word, as long as somebody listens. -/
lemma heard_course {turns : List Turn} (h : ¬ WasStopped turns) :
    (({} : RelayRig).course turns).relay.phase ≠ .flushing true ∧
      (1 ≤ (({} : RelayRig).course turns).relay.rank →
        (({} : RelayRig).course turns).hasListener = true →
          (({} : RelayRig).course turns).noticesRev ≠ []) := by
  induction turns using List.reverseRecOn with
  | nil => exact ⟨by simp [course], fun hrank => absurd hrank (by simp [course, rank])⟩
  | append_singleton turns t ih =>
    have hbefore : ¬ WasStopped turns := fun hstopped => h (hstopped.append [t])
    have hnow : (({} : RelayRig).course turns).isStopped ≠ true :=
      fun hstopped => hbefore ⟨turns, List.prefix_rfl, hstopped⟩
    obtain ⟨hphase, hheard⟩ := ih hbefore
    rw [course_concat]
    generalize ({} : RelayRig).course turns = rig at hphase hheard hnow
    cases t with
    | event e =>
      cases e with
      | arrival a =>
        change (rig.apply (.arrival a)).relay.phase ≠ .flushing true ∧ _
        simp only [turn, apply_arrival]
        split <;> exact ⟨hphase, hheard⟩
      | sink e =>
        simp only [turn, apply_sink]
        split <;> exact ⟨hphase, hheard⟩
      | shutdown => exact ⟨hphase, hheard⟩
      | dropNotices => exact ⟨hphase, fun _ hlistener => absurd hlistener (by simp [turn, RelayRig.apply])⟩
    | relay =>
      unfold turn
      cases hstep : rig.step with
      | none => exact ⟨hphase, hheard⟩
      | some rig' =>
        unfold RelayRig.step at hstep
        obtain ⟨m, hmove, rfl⟩ := Option.map_eq_some_iff.mp hstep
        rcases step_cases hmove with
          ⟨-, hact, hafter⟩ | ⟨isStopped, hbefore, hm⟩ | ⟨failure?, -, hm⟩ | ⟨hold, hbefore, hm⟩
        · rw [hact]
          rcases hafter with hcopying | ⟨fault, hafter⟩ | ⟨isLast, hafter, hshut⟩
          · have hrank := rank_of_isCopying hcopying
            have hnext : m.relay.phase ≠ .flushing true := by
              intro hflushing
              simp [isCopying, hflushing] at hcopying
            exact ⟨hnext, fun hlet => by simp [witness, hrank] at hlet⟩
          · exact ⟨by simp [witness, hafter], fun hlet => by simp [witness, rank, hafter] at hlet⟩
          · have hgood : isLast ≠ true := by
              intro hstopped
              obtain ⟨hwaiting, hshutdown⟩ := hshut hstopped
              exact hnow (by simp [isStopped, hshutdown, hwaiting])
            exact ⟨by simpa [witness, hafter] using hgood,
              fun hlet => by simp [witness, rank, hafter] at hlet⟩
        · have hgood : isStopped ≠ true := fun hstopped => hphase (by rw [hbefore, hstopped])
          simp only [hgood] at hm
          rw [hm]
          exact ⟨by simp [witness], fun hrank => absurd hrank (by simp [witness, rank])⟩
        · rw [hm]
          by_cases hlistener : rig.hasListener = true
          · simp [witness, hlistener]
          · simp [witness, hlistener]
        · have hrank : 1 ≤ rig.relay.rank := by cases hold <;> simp [rank, hbefore]
          rw [hm]
          cases hold <;> exact ⟨by simp [witness, Hold.next], fun _ => hheard hrank⟩

/-! ### The diagnostics -/

/-- The relay neither loses, repeats nor moves diagnostics.  After every course, what the sink holds is the
front of the content of what has arrived.  A good notice says that the diagnostics have ended and that the
sink holds all of them, flushed.  There is at most one notice, and none once a shutdown has been found;
when the relay is done after that and no flush has failed, all that it has written is flushed.  Without a
shutdown it is not done before it has given notice, as long as somebody listens. -/
theorem diagnostics_of_course (turns : List Turn) :
    let rig := ({} : RelayRig).course turns
    rig.sink.written <+: content (arrivals turns) ∧
    (⟨.relay, none⟩ ∈ rig.notices →
      .eof ∈ arrivals turns ∧ rig.sink.written = content (arrivals turns) ∧
        rig.sink.flushed = rig.sink.written.length) ∧
    rig.notices.length ≤ 1 ∧
    (WasStopped turns → rig.notices = []) ∧
    (WasStopped turns → rig.relay.isDone = true → NoFlushFailed turns →
      rig.sink.flushed = rig.sink.written.length) ∧
    (¬ WasStopped turns → rig.relay.isDone = true → rig.hasListener = true → rig.notices ≠ []) := by
  intro rig
  have hkeeps : Keeps (arrivals turns) (flushFaults turns) rig := keeps_course turns
  have hstopped : WasStopped turns → Stopped (flushFaults turns) rig := by
    rintro ⟨before, ⟨after, rfl⟩, hbefore⟩
    exact stopped_course hbefore after
  have hdone : rig.relay.isDone = true → 1 ≤ rig.relay.rank := by
    intro h
    have hphase : rig.relay.phase = .done := by simpa [isDone] using h
    simp [rank, hphase]
  refine ⟨hkeeps.follows.written_prefix, fun hgood => ?_, ?_, fun hstop => ?_, fun hstop hend hflush => ?_,
    fun hstop hend hlistener => ?_⟩
  · obtain ⟨-, -, hholds⟩ := hkeeps.of_notice _ (List.mem_reverse.mp hgood)
    obtain ⟨heof, hwritten, hflushed⟩ := hholds rfl
    exact ⟨heof, hwritten, hflushed⟩
  · rw [notices, List.length_reverse]
    cases hnotices : rig.noticesRev with
    | nil => exact Nat.zero_le 1
    | cons n older =>
      have hone := (hkeeps.of_notice n (by simp [hnotices])).1
      rw [← hnotices, hone]
      exact le_rfl
  · rw [notices, (hstopped hstop).noticesRev_eq, List.reverse_nil]
  · rcases (hstopped hstop).flushed (hdone hend) with hall | hlost
    · exact hall
    · have hsame : rig.sink.flushFaults = flushFaults turns := hflush
      rw [hsame] at hlost
      exact absurd hlost (lt_irrefl _)
  · have hheard := (heard_course hstop).2 (hdone hend) hlistener
    simpa [notices] using hheard

/-- Diagnostics that come in two chunks with an interrupted read in between, written a byte at a time and
held up for a while, are all there when the relay gives notice.  A shutdown while the sink is full leaves
the two bytes that it has taken flushed, and says nothing. -/
theorem diagnostics_of_two_courses :
    (let start : List Turn := [.event (.sink (.maxWrite (some 1))), .event (.arrival (.data [1, 2])),
        .event (.arrival (.fault (.kind .interrupted))), .event (.arrival (.data [3])),
        .event (.sink (.budget (some 1)))]
      let later : List Turn := [.event (.sink (.budget none)), .event (.arrival .eof)]
      let turns := start ++ List.replicate 8 Turn.relay ++ later ++ List.replicate 20 Turn.relay
      let rig := ({} : RelayRig).course turns
      rig.sink.written = [1, 2, 3] ∧ rig.sink.flushed = 3 ∧ rig.relay.isDone = true) ∧
    (let start : List Turn := [.event (.sink (.budget (some 2))), .event (.arrival (.data [1, 2, 3]))]
      let before := start ++ List.replicate 8 Turn.relay ++ [Turn.event .shutdown]
      let turns := before ++ List.replicate 5 Turn.relay
      let rig := ({} : RelayRig).course turns
      rig.notices = [] ∧ rig.sink.flushed = rig.sink.written.length ∧ rig.sink.written = [1, 2]) := by
  constructor
  · intro start later turns rig
    obtain ⟨-, hgood, -⟩ := diagnostics_of_course turns
    obtain ⟨-, hwritten, hflushed⟩ := hgood (by decide +kernel)
    have hcontent : content (arrivals turns) = [1, 2, 3] := by decide +kernel
    refine ⟨hwritten.trans hcontent, ?_, by decide +kernel⟩
    rw [hflushed, hwritten, hcontent]
    rfl
  · intro start before turns rig
    obtain ⟨-, -, -, hquiet, hflushed, -⟩ := diagnostics_of_course turns
    have hstopped : WasStopped turns := ⟨before, List.prefix_append _ _, by decide +kernel⟩
    have hdone : rig.relay.isDone = true := by decide +kernel
    have hcalm : NoFlushFailed turns := by
      unfold NoFlushFailed
      decide +kernel
    have hwritten : rig.sink.written = [1, 2] := by decide +kernel
    exact ⟨hquiet hstopped, hflushed hstopped hdone hcalm, hwritten⟩

end RelayRig
end Traversal
