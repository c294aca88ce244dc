import Mathlib
import Traversal.Proofs.PumpLedger
import Traversal.Proofs.Submissions
import Traversal.Proofs.TerminalCourse

/-!
# One line at a time on its way to the engine

The reader of a terminal submits a line only when the one before it has been written.  So all lines but the
last one are in the engine's standard input, and nothing of them is held up; `Session.Place` says where the
last one is.  It waits in the queue, the pump has taken it, its record is in the buffer or behind it in the
stream, or it is known what became of it.  `Place.step` says that no turn of a session loses it, repeats it
or puts anything else into the stream.
-/

namespace Traversal

/-- A message that is not in the buffer, and for which nothing is being cleared, has just been taken. -/
lemma Pump.phase_of_unloaded {p : Pump} {request : Request} (h : p.unloaded? = some request)
    (hclearing : p.clearing? = none) : p.phase = .poised request .clearing false := by
  unfold unloaded? at h
  split at h
  · next r needsRoom hphase =>
    cases h
    cases needsRoom with
    | false => exact hphase
    | true => simp [clearing?, hphase] at hclearing
  · next r hphase => simp [clearing?, hphase] at hclearing
  · cases h

namespace Session

open Record

variable {s s' : Session} {earlier : List Bytes} {last? : Option Bytes}

/-! ### Where the last line is -/

/-- No message waits, and the pump deals with none. -/
structure IsVacant (s : Session) : Prop where
  queue_eq : s.mailbox.queue = []
  waiting_eq : s.mailbox.waiting = []
  inHand_eq : s.pump.inHand? = none

/-- These lines have been written, and nothing is held up. -/
structure HasWritten (lines : List Bytes) (s : Session) : Prop where
  written_eq : s.stdin.written = lines.flatMap encode
  buffer_eq : s.pump.buffer = []

/-- What has been written and what is held up are some lines, with or without another one. -/
def Carries (earlier : List Bytes) (line : Bytes) (s : Session) : Prop :=
  s.stdin.written ++ s.pump.buffer = earlier.flatMap encode ∨
    s.stdin.written ++ s.pump.buffer = (earlier ++ [line]).flatMap encode

/-- Where the line is that has been submitted last, if there is one, behind those that have been written. -/
inductive Place (s : Session) (earlier : List Bytes) : Option Bytes → Prop
  | nowhere (hvacant : s.IsVacant) (hwritten : HasWritten earlier s) : Place s earlier none
  | queued (line : Bytes) (hqueue : s.mailbox.queue = [⟨earlier.length, line⟩])
      (hwaiting : s.mailbox.waiting = []) (hinHand : s.pump.inHand? = none)
      (hlistens : s.pump.phase ≠ .deaf) (hwritten : HasWritten earlier s) : Place s earlier (some line)
  | taken (line : Bytes) (hqueue : s.mailbox.queue = []) (hwaiting : s.mailbox.waiting = [])
      (hphase : s.pump.phase = .poised ⟨earlier.length, line⟩ .clearing false)
      (hwritten : HasWritten earlier s) : Place s earlier (some line)
  | loaded (line : Bytes) (hqueue : s.mailbox.queue = []) (hwaiting : s.mailbox.waiting = [])
      (hinHand : s.pump.inHand? = some ⟨earlier.length, line⟩) (hunloaded : s.pump.unloaded? = none)
      (hfailing : s.pump.failing? = none)
      (hbytes : s.stdin.written ++ s.pump.buffer = (earlier ++ [line]).flatMap encode) :
      Place s earlier (some line)
  /-- It is about to be given up. -/
  | refused (line : Bytes) (failure : Failure) (hqueue : s.mailbox.queue = [])
      (hwaiting : s.mailbox.waiting = [])
      (hphase : s.pump.phase = .answering ⟨earlier.length, line⟩ (some failure))
      (hcarries : Carries earlier line s) : Place s earlier (some line)
  | written (line : Bytes) (hvacant : s.IsVacant)
      (houtcome : s.mailbox.outcome? earlier.length = some none)
      (hwritten : HasWritten (earlier ++ [line]) s) : Place s earlier (some line)
  | failed (line : Bytes) (failure : Failure) (hvacant : s.IsVacant)
      (houtcome : s.mailbox.outcome? earlier.length = some (some failure))
      (hcarries : Carries earlier line s) : Place s earlier (some line)

/-- Wherever the last line is, what has been written is a part of the lines, from the first one on. -/
lemma Place.written_prefix (h : Place s earlier last?) :
    s.stdin.written <+: (earlier ++ last?.toList).flatMap encode := by
  have hcarried : ∀ {line}, Carries earlier line s → s.stdin.written <+: (earlier ++ [line]).flatMap encode := by
    rintro line (hearlier | hall)
    · rw [List.flatMap_append, ← hearlier]
      exact (List.prefix_append _ _).trans (List.prefix_append _ _)
    · exact ⟨_, hall⟩
  cases h with
  | nowhere _ hwritten =>
    rw [hwritten.written_eq, Option.toList_none, List.append_nil]
  | queued line _ _ _ _ hwritten | taken line _ _ _ hwritten =>
    rw [hwritten.written_eq, List.flatMap_append]
    exact List.prefix_append _ _
  | loaded line _ _ _ _ _ hbytes => exact ⟨_, hbytes⟩
  | refused line _ _ _ _ hcarries | failed line _ _ _ hcarries => exact hcarried hcarries
  | written line _ _ hwritten =>
    rw [hwritten.written_eq]
    exact List.prefix_rfl

/-- When no line is on its way, all of them have been written. -/
lemma Place.written_eq (h : Place s earlier none) : s.stdin.written = earlier.flatMap encode := by
  cases h with
  | nowhere _ hwritten => exact hwritten.written_eq

/-- When the pump has nothing to do, it is known what has become of the last line. -/
lemma Place.known_of_rest {line : Bytes} (h : Place s earlier (some line))
    (hrest : s.pump.phase = .idle ∧ s.mailbox.queue = [] ∨ s.pump.phase = .deaf) :
    ∃ failure?, s.mailbox.outcome? earlier.length = some failure? := by
  have hinHand : s.pump.inHand? = none := by
    rcases hrest with ⟨hphase, -⟩ | hphase <;> simp [Pump.inHand?, hphase]
  cases h with
  | queued _ hqueue _ _ hlistens _ =>
    rcases hrest with ⟨-, hempty⟩ | hdeaf
    · simp [hqueue] at hempty
    · exact absurd hdeaf hlistens
  | taken _ _ _ hphase _ | refused _ _ _ _ hphase _ => simp [Pump.inHand?, hphase] at hinHand
  | loaded _ _ _ hsome _ _ _ => simp [hsome] at hinHand
  | written _ _ houtcome _ => exact ⟨none, houtcome⟩
  | failed _ failure _ houtcome _ => exact ⟨some failure, houtcome⟩

/-- Nothing has changed that matters for the last line. -/
lemma Place.congr (h : Place s earlier last?) (hpump : s'.pump = s.pump)
    (hstdin : s'.stdin.written = s.stdin.written) (hqueue : s'.mailbox.queue = s.mailbox.queue)
    (hwaiting : s'.mailbox.waiting = s.mailbox.waiting)
    (hresolved : s'.mailbox.resolved = s.mailbox.resolved) : Place s' earlier last? := by
  have hvacant : s.IsVacant → s'.IsVacant := fun hv =>
    ⟨hqueue.trans hv.queue_eq, hwaiting.trans hv.waiting_eq, hpump ▸ hv.inHand_eq⟩
  have hwritten : ∀ {lines}, HasWritten lines s → HasWritten lines s' := fun hw =>
    ⟨hstdin.trans hw.written_eq, hpump ▸ hw.buffer_eq⟩
  have hcarries : ∀ {line}, Carries earlier line s → Carries earlier line s' := by
    intro line hc
    unfold Carries at hc ⊢
    rw [hstdin, hpump]
    exact hc
  have houtcome : ∀ ticket, s'.mailbox.outcome? ticket = s.mailbox.outcome? ticket := by
    intro ticket
    rw [Mailbox.outcome?, hresolved]
    rfl
  cases h with
  | nowhere hv hw => exact .nowhere (hvacant hv) (hwritten hw)
  | queued line hq hwait hinHand hlistens hw =>
    exact .queued line (hqueue.trans hq) (hwaiting.trans hwait) (hpump ▸ hinHand) (hpump ▸ hlistens)
      (hwritten hw)
  | taken line hq hwait hphase hw =>
    exact .taken line (hqueue.trans hq) (hwaiting.trans hwait) (hpump ▸ hphase) (hwritten hw)
  | loaded line hq hwait hinHand hunloaded hfailing hbytes =>
    exact .loaded line (hqueue.trans hq) (hwaiting.trans hwait) (hpump ▸ hinHand) (hpump ▸ hunloaded)
      (hpump ▸ hfailing) (by rw [hstdin, hpump, hbytes])
  | refused line failure hq hwait hphase hc =>
    exact .refused line failure (hqueue.trans hq) (hwaiting.trans hwait) (hpump ▸ hphase) (hcarries hc)
  | written line hv ho hw => exact .written line (hvacant hv) ((houtcome _).trans ho) (hwritten hw)
  | failed line failure hv ho hc =>
    exact .failed line failure (hvacant hv) ((houtcome _).trans ho) (hcarries hc)

/-- When the queue goes away, a line that waits in it is given up. -/
lemma Place.close (h : Place s earlier last?) {m : Mailbox} (hmailbox : s'.mailbox = m.close)
    (hqueue : m.queue = s.mailbox.queue) (hwaiting : m.waiting = s.mailbox.waiting)
    (hresolved : m.resolved = s.mailbox.resolved) (hbefore : s.pump.inHand? = none)
    (hafter : s'.pump.inHand? = none) (hbuffer : s'.pump.buffer = s.pump.buffer)
    (hstdin : s'.stdin.written = s.stdin.written) : Place s' earlier last? := by
  rw [Mailbox.close_eq, hqueue, hwaiting, hresolved] at hmailbox
  have hvacant : s'.IsVacant := ⟨by rw [hmailbox], by rw [hmailbox], hafter⟩
  have hwritten : ∀ {lines}, HasWritten lines s → HasWritten lines s' := fun hw =>
    ⟨hstdin.trans hw.written_eq, hbuffer.trans hw.buffer_eq⟩
  cases h with
  | nowhere _ hw => exact .nowhere hvacant (hwritten hw)
  | queued line hq hwait _ _ hw =>
    refine .failed line (.endedUnwritten m.session) hvacant ?_ (.inl ?_)
    · simp [hmailbox, hq, hwait, Mailbox.outcome?]
    · rw [(hwritten hw).written_eq, (hwritten hw).buffer_eq, List.append_nil]
  | taken line _ _ hphase _ => simp [Pump.inHand?, hphase] at hbefore
  | loaded line _ _ hinHand _ _ _ => simp [hinHand] at hbefore
  | refused line _ _ _ hphase _ => simp [Pump.inHand?, hphase] at hbefore
  | written line hv ho hw =>
    refine .written line hvacant ?_ (hwritten hw)
    simpa [hmailbox, hv.queue_eq, hv.waiting_eq, Mailbox.outcome?] using ho
  | failed line failure hv ho hc =>
    refine .failed line failure hvacant ?_ ?_
    · simpa [hmailbox, hv.queue_eq, hv.waiting_eq, Mailbox.outcome?] using ho
    · unfold Carries at hc ⊢
      rw [hstdin, hbuffer]
      exact hc

/-- A pump that deals with no message leaves the last line where it is, as long as it listens to the
queue. -/
lemma Place.stay (h : Place s earlier last?) (hmailbox : s'.mailbox = s.mailbox)
    (hbefore : s.pump.inHand? = none) (hafter : s'.pump.inHand? = none)
    (hlistens : s.mailbox.queue ≠ [] → s'.pump.phase ≠ .deaf) (hbuffer : s'.pump.buffer = s.pump.buffer)
    (hstdin : s'.stdin.written = s.stdin.written) : Place s' earlier last? := by
  have hvacant : s.IsVacant → s'.IsVacant := fun hv =>
    ⟨hmailbox ▸ hv.queue_eq, hmailbox ▸ hv.waiting_eq, hafter⟩
  have hwritten : ∀ {lines}, HasWritten lines s → HasWritten lines s' := fun hw =>
    ⟨hstdin.trans hw.written_eq, hbuffer.trans hw.buffer_eq⟩
  cases h with
  | nowhere hv hw => exact .nowhere (hvacant hv) (hwritten hw)
  | queued line hq hwait _ _ hw =>
    exact .queued line (hmailbox ▸ hq) (hmailbox ▸ hwait) hafter (hlistens (by simp [hq])) (hwritten hw)
  | taken line _ _ hphase _ => simp [Pump.inHand?, hphase] at hbefore
  | loaded line _ _ hinHand _ _ _ => simp [hinHand] at hbefore
  | refused line _ _ _ hphase _ => simp [Pump.inHand?, hphase] at hbefore
  | written line hv ho hw => exact .written line (hvacant hv) (hmailbox ▸ ho) (hwritten hw)
  | failed line failure hv ho hc =>
    refine .failed line failure (hvacant hv) (hmailbox ▸ ho) ?_
    unfold Carries at hc ⊢
    rw [hstdin, hbuffer]
    exact hc

/-! ### Steps of the pump -/

/-- What the pump may have in hand is the last line, which has just been taken, is in the buffer, or is about
to be given up. -/
lemma Place.of_inHand (h : Place s earlier last?) {request : Request}
    (hinHand : s.pump.inHand? = some request) :
    ∃ line, last? = some line ∧ request = ⟨earlier.length, line⟩ ∧ s.mailbox.queue = [] ∧
      s.mailbox.waiting = [] ∧
      (s.pump.phase = .poised request .clearing false ∧ s.pump.unloaded? = some request ∧
          s.pump.clearing? = none ∧ HasWritten earlier s ∨
        s.pump.unloaded? = none ∧ s.pump.failing? = none ∧
          s.stdin.written ++ s.pump.buffer = (earlier ++ [line]).flatMap encode ∨
        ∃ failure, s.pump.phase = .answering request (some failure) ∧ Carries earlier line s) := by
  cases h with
  | nowhere hv _ | written _ hv _ _ | failed _ _ hv _ _ =>
    rw [hv.inHand_eq] at hinHand
    cases hinHand
  | queued line _ _ hnone _ _ =>
    rw [hnone] at hinHand
    cases hinHand
  | taken line hq hwait hphase hw =>
    obtain rfl : (⟨earlier.length, line⟩ : Request) = request := by
      simpa [Pump.inHand?, hphase] using hinHand
    exact ⟨line, rfl, rfl, hq, hwait, .inl ⟨hphase, by simp [Pump.unloaded?, hphase],
      by simp [Pump.clearing?, hphase], hw⟩⟩
  | loaded line hq hwait hsome hunloaded hfailing hall =>
    obtain rfl := Option.some.inj (hsome.symm.trans hinHand)
    exact ⟨line, rfl, rfl, hq, hwait, .inr (.inl ⟨hunloaded, hfailing, hall⟩)⟩
  | refused line failure hq hwait hphase hc =>
    obtain rfl : (⟨earlier.length, line⟩ : Request) = request := by
      simpa [Pump.inHand?, hphase] using hinHand
    exact ⟨line, rfl, rfl, hq, hwait, .inr (.inr ⟨failure, hphase, hc⟩)⟩

section Motions

variable {m : Pump.Move} {request : Request}
  (hpump : s'.pump = m.pump) (hstdin : s'.stdin = m.stdin)
include hpump hstdin

/-- Taking the last line from the queue. -/
lemma Place.take (h : Place s earlier last?) (hmailbox : s'.mailbox = s.mailbox.take)
    (hfirst : s.mailbox.queue.head? = some request)
    (hphase : m.pump.phase = .poised request .clearing false) (hbuffer : m.pump.buffer = s.pump.buffer)
    (hsame : m.stdin = s.stdin) : Place s' earlier last? := by
  cases h with
  | queued line hq hwait _ _ hw =>
    obtain rfl : (⟨earlier.length, line⟩ : Request) = request := by simpa [hq] using hfirst
    refine .taken line ?_ ?_ (hpump ▸ hphase) ⟨?_, ?_⟩
    · simp [hmailbox, Mailbox.take, hq, hwait]
    · simp [hmailbox, Mailbox.take, hwait]
    · rw [hstdin, hsame, hw.written_eq]
    · rw [hpump, hbuffer, hw.buffer_eq]
  | nowhere hv _ | written _ hv _ _ | failed _ _ hv _ _ => simp [hv.queue_eq] at hfirst
  | taken line hq _ _ _ | loaded line hq _ _ _ _ _ | refused line _ hq _ _ _ => simp [hq] at hfirst

/-- Carrying bytes from the buffer to the stream.  Nothing is held up before the last line, so that the
buffer is not cleared for it. -/
lemma Place.carry (h : Place s earlier last?) (hmailbox : s'.mailbox = s.mailbox)
    (hbefore : s.pump.inHand? = some request) (hafter : m.pump.inHand? = some request)
    (hanswering : ∀ failure?, s.pump.phase ≠ .answering request failure?)
    (hphase : ∀ stage, m.pump.phase ≠ .poised request stage false)
    (hunloaded : m.pump.unloaded? = s.pump.unloaded?) (hfailing : m.pump.failing? = none)
    (hclearing : m.pump.clearing? = s.pump.clearing? ∨ Pump.bound ≤ s.pump.buffer.length)
    (hbytes : m.stdin.written ++ m.pump.buffer = s.stdin.written ++ s.pump.buffer) :
    Place s' earlier last? := by
  obtain ⟨line, rfl, rfl, hq, hwait, ⟨-, hun, hclear, hw⟩ | ⟨hnot, -, hall⟩ | ⟨failure, hrefused, -⟩⟩ :=
    h.of_inHand hbefore
  · have hclearing' : m.pump.clearing? = none := by
      refine (hclearing.resolve_right fun hlong => ?_).trans hclear
      rw [hw.buffer_eq] at hlong
      exact absurd hlong (by decide)
    exact absurd (Pump.phase_of_unloaded (hunloaded.trans hun) hclearing') (hphase .clearing)
  · exact .loaded line (hmailbox ▸ hq) (hmailbox ▸ hwait) (hpump ▸ hafter) (hpump ▸ hunloaded.trans hnot)
      (hpump ▸ hfailing) (by rw [hstdin, hpump, hbytes, hall])
  · exact absurd hrefused (hanswering _)

/-- Putting the last line into the buffer. -/
lemma Place.load (h : Place s earlier last?) (hmailbox : s'.mailbox = s.mailbox)
    (hbefore : s.pump.unloaded? = some request) (hloaded : m.pump = s.pump.load request)
    (hwritten : m.stdin.written = s.stdin.written) : Place s' earlier last? := by
  obtain ⟨line, rfl, rfl, hq, hwait, ⟨-, -, -, hw⟩ | ⟨hnot, -⟩ | ⟨failure, hrefused, -⟩⟩ :=
    h.of_inHand (Pump.inHand_of_unloaded hbefore)
  · refine .loaded line (hmailbox ▸ hq) (hmailbox ▸ hwait) ?_ ?_ ?_ ?_
    · rw [hpump, hloaded]
      rfl
    · rw [hpump, hloaded]
      rfl
    · rw [hpump, hloaded]
      rfl
    · rw [hstdin, hwritten, hpump, hloaded, hw.written_eq]
      simp [Pump.load, hw.buffer_eq]
  · rw [hnot] at hbefore
    cases hbefore
  · simp [Pump.unloaded?, hrefused] at hbefore

/-- Settling what becomes of the last line once it is in the buffer. -/
lemma Place.settle (h : Place s earlier last?) (hmailbox : s'.mailbox = s.mailbox)
    (hbefore : s.pump.inHand? = some request) (hunloaded : s.pump.unloaded? = none)
    (hanswering : ∀ failure?, s.pump.phase ≠ .answering request failure?) {failure? : Option Failure}
    (hsettled : m.pump = { s.pump with phase := .answering request failure? })
    (hwritten : m.stdin.written = s.stdin.written) : Place s' earlier last? := by
  obtain ⟨line, rfl, rfl, hq, hwait, ⟨-, hun, -⟩ | ⟨-, -, hall⟩ | ⟨failure, hrefused, -⟩⟩ :=
    h.of_inHand hbefore
  · rw [hunloaded] at hun
    cases hun
  · have hbytes : s'.stdin.written ++ s'.pump.buffer = (earlier ++ [line]).flatMap encode := by
      rw [hstdin, hwritten, hpump, hsettled]
      exact hall
    cases failure? with
    | none =>
      refine .loaded line (hmailbox ▸ hq) (hmailbox ▸ hwait) ?_ ?_ ?_ hbytes
      · rw [hpump, hsettled]
        rfl
      · rw [hpump, hsettled]
        rfl
      · rw [hpump, hsettled]
        rfl
    | some failure =>
      exact .refused line failure (hmailbox ▸ hq) (hmailbox ▸ hwait) (by rw [hpump, hsettled]) (.inr hbytes)
  · exact absurd hrefused (hanswering _)

/-- Giving the last line up before anything has been done for it. -/
lemma Place.cut (h : Place s earlier last?) (hmailbox : s'.mailbox = s.mailbox) {failure : Failure}
    (hphase : s.pump.phase = .poised request .clearing false)
    (hcut : m.pump = { s.pump with phase := .answering request (some failure) })
    (hsame : m.stdin = s.stdin) : Place s' earlier last? := by
  have hbefore : s.pump.inHand? = some request := by simp [Pump.inHand?, hphase]
  obtain ⟨line, rfl, rfl, hq, hwait, ⟨-, -, -, hw⟩ | ⟨hnot, -⟩ | ⟨failure', hrefused, -⟩⟩ :=
    h.of_inHand hbefore
  · refine .refused line failure (hmailbox ▸ hq) (hmailbox ▸ hwait) (by rw [hpump, hcut]) (.inl ?_)
    rw [hstdin, hsame, hpump, hcut, hw.written_eq, hw.buffer_eq, List.append_nil]
  · simp [Pump.unloaded?, hphase] at hnot
  · rw [hphase] at hrefused
    cases hrefused

/-- Telling what has become of the last line. -/
lemma Place.answer (h : Place s earlier last?) {failure? : Option Failure}
    (hmailbox : s'.mailbox = s.mailbox.resolve request.ticket failure?)
    (hhonest : s.pump.Honest s.isShutdown s.stdin) (hphase : s.pump.phase = .answering request failure?)
    (hanswered : m.pump = { s.pump with phase := .idle }) (hsame : m.stdin = s.stdin) :
    Place s' earlier last? := by
  have hbefore : s.pump.inHand? = some request := by simp [Pump.inHand?, hphase]
  have hidle : s'.pump.inHand? = none := by
    rw [hpump, hanswered]
    rfl
  have houtcome : s'.mailbox.outcome? request.ticket = some failure? := by
    simp [hmailbox, Mailbox.resolve, Mailbox.outcome?]
  obtain ⟨line, rfl, rfl, hq, hwait, ⟨htaken, -⟩ | ⟨-, hfailing, hall⟩ | ⟨failure, hrefused, hc⟩⟩ :=
    h.of_inHand hbefore
  · rw [hphase] at htaken
    cases htaken
  · obtain rfl : failure? = none := by simpa [Pump.failing?, hphase] using hfailing
    obtain ⟨-, hempty, -⟩ := hhonest.of_success _ hphase
    rw [hempty, List.append_nil] at hall
    refine .written line ⟨hmailbox ▸ hq, hmailbox ▸ hwait, hidle⟩ houtcome ⟨?_, ?_⟩
    · rw [hstdin, hsame, hall]
    · rw [hpump, hanswered, hempty]
  · obtain rfl : failure? = some failure := by simpa using hphase.symm.trans hrefused
    refine .failed line failure ⟨hmailbox ▸ hq, hmailbox ▸ hwait, hidle⟩ houtcome ?_
    unfold Carries at hc ⊢
    rw [hstdin, hsame, hpump, hanswered]
    exact hc

end Motions

/-- No step of the pump loses the last line, repeats it or puts anything else into the stream. -/
theorem Place.pump (h : Place s earlier last?) (hhonest : s.pump.Honest s.isShutdown s.stdin)
    (hstep : s.stepPump = some s') : Place s' earlier last? := by
  obtain ⟨m, hmove, hpump, hstdin, hmailbox, -, -⟩ := mailbox_of_stepPump hstep
  have hfits := Pump.fits_of_step hmove
  have hinner : m.act = .inner → s'.mailbox = s.mailbox := fun hact => by rw [hmailbox, hact]; rfl
  have hanswering : m.act = .inner → ∀ request failure?, s.pump.phase ≠ .answering request failure? := by
    intro hact request failure? hphase
    simp only [Pump.step, hphase, Option.some.injEq] at hmove
    rw [← hmove] at hact
    cases hact
  cases Pump.motion_of_step hmove with
  | rest hbefore hafter hact _ hbuffer hsame =>
    have hwritten : s'.stdin.written = s.stdin.written := by rw [hstdin, hsame]
    have hbuffer' : s'.pump.buffer = s.pump.buffer := by rw [hpump, hbuffer]
    have hinHand : s'.pump.inHand? = none := by rw [hpump, hafter]
    cases hcase : m.act with
    | take => exact absurd hcase hact
    | answer ticket failure? =>
      rw [hcase] at hfits
      obtain ⟨request, -, hphase, -⟩ := hfits
      simp [Pump.inHand?, hphase] at hbefore
    | inner =>
      rw [hcase] at hfits
      refine h.stay (hinner hcase) hbefore hinHand (fun hqueue hdeaf => hqueue ?_) hbuffer' hwritten
      exact List.head?_eq_none_iff.mp (hfits.2.2 (hpump ▸ hdeaf)).1
    | release hold =>
      rw [hcase] at hmailbox hfits
      cases hold with
      | queue => exact h.close hmailbox rfl rfl rfl hbefore hinHand hbuffer' hwritten
      | stdin => exact h.stay hmailbox hbefore hinHand (fun _ => by rw [hpump, hfits.2]; simp) hbuffer' hwritten
  | take request hphase _ hfirst hm =>
    subst hm
    exact h.take hpump hstdin hmailbox hfirst rfl rfl rfl
  | carry request hbefore hafter hact hphase hunloaded hfailing hclearing hbytes =>
    exact h.carry hpump hstdin (hinner hact) hbefore hafter (hanswering hact request) hphase hunloaded
      hfailing (hclearing.imp_right And.left) hbytes
  | load request hbefore hloaded hact hwritten =>
    exact h.load hpump hstdin (hinner hact) hbefore hloaded hwritten
  | settle request hbefore hunloaded failure? hsettled hact hwritten =>
    exact h.settle hpump hstdin (hinner hact) hbefore hunloaded (hanswering hact request) hsettled hwritten
  | lose request hbefore failure hlost hact hwritten =>
    -- Nothing is being cleared, so that nothing can be lost on the way.
    have hunloaded := Pump.unloaded_of_clearing hbefore
    obtain ⟨_, -, -, -, -, ⟨-, -, hclear, -⟩ | ⟨hnot, -⟩ | ⟨_, hrefused, -⟩⟩ :=
      h.of_inHand (Pump.inHand_of_unloaded hunloaded)
    · rw [hclear] at hbefore
      cases hbefore
    · rw [hnot] at hunloaded
      cases hunloaded
    · exact absurd hrefused (hanswering hact _ _)
  | cut request hphase hshut hm =>
    subst hm
    exact h.cut hpump hstdin (hinner rfl) hphase rfl rfl
  | answer request failure? hphase hm =>
    subst hm
    exact h.answer hpump hstdin hmailbox hhonest hphase rfl rfl

/-! ### Turns -/

/-- At a terminal, a turn of the session submits no message and takes back nothing of what is known. -/
lemma known_of_step {turn : Turn} (hpossible : Terminal.isPossible turn = true) (h : s.step turn = some s') :
    s'.mailbox.nextTicket = s.mailbox.nextTicket ∧ s.mailbox.resolved ⊆ s'.mailbox.resolved := by
  rcases reach_of_step h with ⟨e, rfl, hmeet⟩ | ⟨-, -, hpump⟩ | ⟨-, -, -, hmailbox, -⟩
  · rcases mailbox_of_meet hmeet with ⟨_, hmailbox, -⟩ | ⟨_, rfl, -⟩ | ⟨-, -, -, hmailbox⟩
    · rw [hmailbox]
      exact ⟨rfl, List.Subset.refl _⟩
    · cases hpossible
    · obtain ⟨hnext, hknown, -⟩ := s.mailbox.part.known_close
      rw [hmailbox]
      exact ⟨hnext, hknown⟩
  · obtain ⟨m, -, -, -, hmailbox, -⟩ := mailbox_of_stepPump hpump
    obtain ⟨hnext, hknown, -⟩ := s.mailbox.known_witness m.act
    rw [hmailbox]
    exact ⟨hnext, hknown⟩
  · rw [hmailbox]
    exact ⟨rfl, List.Subset.refl _⟩

/-- A pump turns deaf when nobody can submit messages any more. -/
lemma deaf_of_step {turn : Turn} (h : s.step turn = some s') (hdeaf : s'.pump.phase = .deaf) :
    s.pump.phase = .deaf ∨ s.mailbox.handles = 0 := by
  rcases reach_of_step h with ⟨e, -, hmeet⟩ | ⟨-, -, hpump⟩ | ⟨-, hpump, -⟩
  · exact .inl ((pump_of_meet hmeet).1 ▸ hdeaf)
  · obtain ⟨m, hmove, hpump', -⟩ := mailbox_of_stepPump hpump
    have hfits := Pump.fits_of_step hmove
    rw [hpump'] at hdeaf
    cases hact : m.act with
    | inner =>
      rw [hact] at hfits
      exact .inr (by simpa using (hfits.2.2 hdeaf).2)
    | take =>
      rw [hact] at hfits
      obtain ⟨-, -, _, -, hafter⟩ := hfits
      rw [hafter] at hdeaf
      cases hdeaf
    | answer ticket failure? =>
      rw [hact] at hfits
      obtain ⟨_, -, -, hafter⟩ := hfits
      rw [hafter] at hdeaf
      cases hdeaf
    | release hold =>
      rw [hact] at hfits
      cases hold <;> rw [hfits.2] at hdeaf <;> cases hdeaf
  · exact .inl (hpump ▸ hdeaf)

/-- No turn of the session of a terminal loses the last line, repeats it or puts anything else into the
stream. -/
theorem Place.step (h : Place s earlier last?) (hhonest : s.pump.Honest s.isShutdown s.stdin)
    (hidle : s.stage ≠ .started → s.pump.phase = .idle) {turn : Turn}
    (hpossible : Terminal.isPossible turn = true) (hstep : s.step turn = some s') :
    Place s' earlier last? := by
  rcases reach_of_step hstep with ⟨e, rfl, hmeet⟩ | ⟨-, -, hpump⟩ | ⟨-, hpump, hstdin, hmailbox, -⟩
  · obtain ⟨hpump, hstdin, -⟩ := pump_of_meet hmeet
    have hwritten : s'.stdin.written = s.stdin.written := by
      rcases hstdin with hsame | ⟨event, -, happly⟩
      · rw [hsame]
      · rw [happly, Sink.written_apply]
    rcases mailbox_of_meet hmeet with ⟨handles, hmailbox, -⟩ | ⟨payload, rfl, -⟩ | ⟨hready, -, -, hmailbox⟩
    · exact h.congr hpump hwritten (by rw [hmailbox]) (by rw [hmailbox]) (by rw [hmailbox])
    · cases hpossible
    · have hphase := hidle (by simp [hready])
      have hnone : s.pump.inHand? = none := by simp [Pump.inHand?, hphase]
      exact h.close hmailbox rfl rfl rfl hnone (hpump ▸ hnone) (by rw [hpump]) hwritten
  · exact h.pump hhonest hpump
  · exact h.congr hpump (by rw [hstdin]) (by rw [hmailbox]) (by rw [hmailbox]) (by rw [hmailbox])

/-! ### The reader's part -/

/-- A line that is submitted behind lines that have all been written. -/
lemma Place.submit (h : Place s earlier none) (hnext : s.mailbox.nextTicket = earlier.length)
    (hroom : 0 < s.mailbox.capacity) (hlistens : s.pump.phase ≠ .deaf) (line : Bytes) :
    Place { s with mailbox := s.mailbox.submit line } earlier (some line) := by
  cases h with
  | nowhere hv hw =>
    cases hclosed : s.mailbox.isClosed with
    | true =>
      have hsubmit := Mailbox.submit_of_isClosed hclosed line
      refine .failed line (.notAccepting s.mailbox.session) ⟨?_, ?_, hv.inHand_eq⟩ ?_ (.inl ?_)
      · rw [hsubmit]
        exact hv.queue_eq
      · rw [hsubmit]
        exact hv.waiting_eq
      · simp [hsubmit, hnext, Mailbox.outcome?]
      · rw [hw.written_eq, hw.buffer_eq, List.append_nil]
    | false =>
      have hsubmit : s.mailbox.submit line =
          { s.mailbox with
            nextTicket := s.mailbox.nextTicket + 1
            queue := [⟨earlier.length, line⟩] } := by
        simp [Mailbox.submit, hclosed, hv.queue_eq, hroom, hnext]
      refine .queued line ?_ ?_ hv.inHand_eq hlistens ⟨hw.written_eq, hw.buffer_eq⟩
      · rw [hsubmit]
      · rw [hsubmit]
        exact hv.waiting_eq

/-- When it turns out that the last line has been written, there is no other one on its way. -/
lemma Place.confirm {line : Bytes} (h : Place s earlier (some line)) {name : String} {capacity : Nat}
    {answered : List (Nat × Option Failure)} (haccounted : Accounted name capacity answered s)
    (houtcome : s.mailbox.outcome? earlier.length = some none) : Place s (earlier ++ [line]) none := by
  have hunsettled : earlier.length ∈ s.pump.inHand?.toList.map Request.ticket ++ s.mailbox.pending → False := by
    intro hmem
    rw [haccounted.inOrder.outcome_eq_none hmem] at houtcome
    cases houtcome
  cases h with
  | queued _ hq _ _ _ _ =>
    refine (hunsettled (List.mem_append_right _ ?_)).elim
    simp [Mailbox.pending, hq]
  | taken _ _ _ hphase _ | refused _ _ _ _ hphase _ =>
    refine (hunsettled (List.mem_append_left _ ?_)).elim
    simp [Pump.inHand?, hphase]
  | loaded _ _ _ hinHand _ _ _ =>
    refine (hunsettled (List.mem_append_left _ ?_)).elim
    simp [hinHand]
  | written _ hv _ hw => exact .nowhere hv hw
  | failed _ failure _ ho _ =>
    rw [ho] at houtcome
    cases houtcome

end Session
end Traversal
