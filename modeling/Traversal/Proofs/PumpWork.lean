import Mathlib
import Traversal.Proofs.Stopping
import Traversal.Proofs.TerminalCourse

/-!
# The work of a pump

`Pump.work` is a bound on the number of steps that a pump can take with the messages that it will find in its
queue.  Every step takes from it (`work_lt_of_step`), a message adds its effort, and what happens at the far
side of the engine's standard input adds no more than the two steps of looking at it once again.
-/

namespace Traversal

/-- A write that has to wait has met no fault and no room. -/
lemma Sink.not_ready_of_pending (k : Sink) (bytes : Bytes) (h : (k.write bytes).1 = .pending) :
    (k.write bytes).2.isReady = false := by
  unfold write at h ⊢
  cases hbroken : k.broken with
  | some fault => simp [hbroken] at h
  | none =>
    simp only [hbroken] at h ⊢
    split at h
    · cases h
    · cases h
    · next hdue =>
      split at h
      · cases h
      · next hbytes =>
        split at h
        · next hportion =>
          have hlimit : k.limit = some 0 := by
            unfold portion at hportion
            split at hportion
            · simp [hportion] at hbytes
            · next n hlimit =>
              rcases List.take_eq_nil_iff.mp hportion with rfl | hnil
              · exact hlimit
              · simp [hnil] at hbytes
          simp only [hbytes]
          have hcalm : k.calm.broken = none ∧ k.calm.dueFault = none ∧ k.calm.limit = some 0 :=
            ⟨hbroken, hdue, hlimit⟩
          simp [isReady, hcalm]
        · cases h

namespace Pump

variable {isShutdown hasSenders : Bool} {first? : Option Request} {p : Pump} {k : Sink}
  {requests : List Request}

/-- The messages that a pump will find when others have seen a step. -/
def Act.remaining (act : Act) (requests : List Request) : List Request :=
  match act with
  | .take => requests.tail
  | .release .queue => []
  | _ => requests

/-- The efforts of several messages. -/
def efforts (requests : List Request) : Nat :=
  requests.foldr (fun request total => effort request + total) 0

/-- The efforts of the messages behind others add to theirs. -/
lemma efforts_append (requests more : List Request) :
    efforts (requests ++ more) = efforts requests + efforts more := by
  induction requests with
  | nil => simp [efforts]
  | cons request requests ih =>
    unfold efforts at ih ⊢
    rw [List.cons_append, List.foldr_cons, List.foldr_cons, ih, Nat.add_assoc]

/-- The messages that a pump will find add their efforts to its work. -/
lemma work_eq (p : Pump) (requests : List Request) (k : Sink) :
    p.work requests k = p.work [] k + efforts requests := rfl

/-- Room for more is no more than two steps. -/
lemma work_le_of_sink (p : Pump) (requests : List Request) (k k' : Sink) :
    p.work requests k' ≤ p.work requests k + 2 := by
  unfold work
  cases hphase : p.phase with
  | poised request stage needsRoom =>
    simp only
    split <;> split <;> omega
  | releasing hold => cases hold <;> simp only <;> omega
  | idle | deaf | pushing request stage | answering request failure? | done =>
    simp only
    omega

/-- Writing from the buffer takes from the work. -/
lemma work_push_lt {request : Request} {stage : Stage} (hphase : p.phase = .pushing request stage) :
    (p.push request stage k).pump.work requests (p.push request stage k).stdin < p.work requests k := by
  have hbefore : p.work requests k =
      (if stage = .clearing then effort request else 8) + 1 + 8 * p.buffer.length + efforts requests := by
    simp only [work, hphase, efforts]
  have hstage : 8 ≤ if stage = .clearing then effort request else 8 := by
    split
    · unfold effort
      omega
    · exact le_refl 8
  unfold push
  split
  · next hempty =>
    have hempty : p.buffer = [] := List.isEmpty_iff.mp hempty
    split
    · rw [hbefore]
      cases stage with
      | clearing =>
        simp only [advance, load, work, effort, efforts, hempty, Record.encode, List.nil_append,
          List.length_append, List.length_singleton, if_true, reduceCtorEq, if_false]
        omega
      | writing =>
        simp only [advance, work, efforts, reduceCtorEq, if_false]
        omega
    · rw [hbefore]
      simp only [fail, work, efforts]
      omega
  · next hnonempty =>
    have hbuffer : p.buffer ≠ [] := fun hempty => hnonempty (List.isEmpty_iff.mpr hempty)
    have hlength : 0 < p.buffer.length := List.length_pos_iff.mpr hbuffer
    split
    · next n k' heq =>
      have hpos : 0 < n := Sink.pos_of_write hbuffer (by rw [heq])
      rw [hbefore]
      simp only [work, hphase, efforts, List.length_drop]
      omega
    · rw [hbefore]
      simp only [fail, work, efforts]
      omega
    · rw [hbefore]
      simp only [fail, work, efforts]
      omega
    · next k' heq =>
      have hready : k'.isReady = false := by
        have hpending := Sink.not_ready_of_pending k p.buffer (by rw [heq])
        rwa [heq] at hpending
      rw [hbefore]
      simp only [work, efforts, hready, Bool.not_true, Bool.or_false, Bool.false_eq_true, if_false]
      omega

/-- Turning to the stream takes from the work. -/
lemma work_turn_lt {request : Request} {stage : Stage} {needsRoom : Bool}
    (hphase : p.phase = .poised request stage needsRoom) (hready : (!needsRoom || k.isReady) = true) :
    (p.turn request stage).work requests k < p.work requests k := by
  have hbefore : p.work requests k =
      (if stage = .clearing then effort request else 8) + 2 + 8 * p.buffer.length + efforts requests := by
    simp only [work, hphase, efforts, hready, if_true]
  rw [hbefore]
  unfold turn
  split
  · next hclearing =>
    have hstage : stage = .clearing := by
      simp only [Bool.and_eq_true, decide_eq_true_eq] at hclearing
      exact hclearing.1
    simp only [load, work, effort, efforts, hstage, Record.encode, List.length_append, List.length_singleton,
      if_true, reduceCtorEq, if_false]
    omega
  · simp only [work, efforts]
    omega

/-- Every step takes from the work. -/
theorem work_lt_of_step {m : Move} (hfirst : ∀ request, first? = some request → requests.head? = some request)
    (h : p.step isShutdown first? hasSenders k = some m) :
    m.pump.work (m.act.remaining requests) m.stdin < p.work requests k := by
  unfold step at h
  cases hphase : p.phase with
  | idle =>
    simp only [hphase] at h
    split at h
    · cases h
      simp only [work, hphase, Act.remaining]
      omega
    · split at h
      · next request =>
        obtain ⟨rest, rfl⟩ := List.head?_eq_some_iff.mp (hfirst request rfl)
        cases h
        simp only [work, hphase, Act.remaining, List.tail_cons, List.foldr_cons, Bool.not_false,
          Bool.true_or, if_true]
        omega
      · split at h <;> cases h
        simp only [work, hphase, Act.remaining]
        omega
  | deaf =>
    simp only [hphase] at h
    split at h <;> cases h
    simp only [work, hphase, Act.remaining]
    omega
  | poised request stage needsRoom =>
    simp only [hphase] at h
    split at h
    · cases h
      have hstage : 8 ≤ if stage = .clearing then effort request else 8 := by
        split
        · unfold effort
          omega
        · exact le_refl 8
      simp only [work, hphase, Act.remaining]
      omega
    · split at h
      · next hready =>
        cases h
        exact work_turn_lt hphase hready
      · cases h
  | pushing request stage =>
    simp only [hphase, Option.some.injEq] at h
    subst h
    rw [(inHand_of_push hphase).2]
    exact work_push_lt hphase
  | answering request failure? =>
    simp only [hphase, Option.some.injEq] at h
    subst h
    simp only [work, hphase, Act.remaining]
    omega
  | releasing hold =>
    simp only [hphase, Option.some.injEq] at h
    subst h
    cases hold with
    | stdin =>
      simp only [work, hphase, Hold.next, Act.remaining]
      omega
    | queue =>
      simp only [work, hphase, Hold.next, Act.remaining, List.foldr_nil]
      omega
  | done => simp [hphase] at h

end Pump

/-- What a pump shows in a step leaves the messages that it will find. -/
lemma Mailbox.requests_witness (m : Mailbox) {act : Pump.Act} (hact : act = .take → m.queue ≠ []) :
    (m.witness act).queue ++ (m.witness act).waiting = act.remaining (m.queue ++ m.waiting) := by
  cases act with
  | inner | answer ticket failure? => rfl
  | take =>
    simp only [witness, take, Pump.Act.remaining, List.append_assoc, List.take_append_drop]
    exact (List.tail_append_of_ne_nil (hact rfl)).symm
  | release hold =>
    cases hold with
    | stdin => rfl
    | queue =>
      simp only [witness, close_eq, Pump.Act.remaining]
      rfl

namespace Session

variable {s s' : Session}

/-- The work of the pump with all messages that wait for it. -/
def pumpWork (s : Session) : Nat :=
  s.pump.work (s.mailbox.queue ++ s.mailbox.waiting) s.stdin

/-- What a turn adds to the work of the pump. -/
def Turn.stir : Turn → Nat
  | .world (.stdin _) => 2
  | _ => 0

/-- A step of the pump takes from its work. -/
lemma pumpWork_lt_of_stepPump (h : s.stepPump = some s') : s'.pumpWork < s.pumpWork := by
  obtain ⟨m, hmove, hpump, hstdin, hmailbox, -⟩ := mailbox_of_stepPump h
  have hfirst : ∀ request, s.mailbox.queue.head? = some request →
      (s.mailbox.queue ++ s.mailbox.waiting).head? = some request := by
    intro request hhead
    rw [List.head?_append, hhead, Option.some_or]
  have hfits := Pump.fits_of_step hmove
  have hact : m.act = .take → s.mailbox.queue ≠ [] := by
    intro htake hempty
    rw [htake] at hfits
    obtain ⟨-, -, request, hsome, -⟩ := hfits
    simp [hempty] at hsome
  rw [pumpWork, pumpWork, hpump, hstdin, hmailbox, s.mailbox.requests_witness hact]
  exact Pump.work_lt_of_step hfirst hmove

/-- At a terminal, the turns of the session take from the work of the pump, except that the far side of the
engine's standard input may add two steps. -/
lemma pumpWork_of_step {turn : Turn} (hpossible : Terminal.isPossible turn = true)
    (h : s.step turn = some s') :
    (if turn = .pump then 1 else 0) + s'.pumpWork ≤ s.pumpWork + turn.stir := by
  rcases reach_of_step h with ⟨e, rfl, hmeet⟩ | ⟨rfl, -, hpump⟩ | ⟨hne, hpump, hstdin, hmailbox, -⟩
  · obtain ⟨hpump, hstdin, -⟩ := pump_of_meet hmeet
    have hrequests : ∀ k, s.pump.work (s'.mailbox.queue ++ s'.mailbox.waiting) k ≤
        s.pump.work (s.mailbox.queue ++ s.mailbox.waiting) k := by
      intro k
      rcases mailbox_of_meet hmeet with ⟨handles, hmailbox, -⟩ | ⟨payload, rfl, -⟩ | ⟨-, -, -, hmailbox⟩
      · rw [hmailbox]
      · cases hpossible
      · rw [hmailbox, Mailbox.close_eq]
        exact Nat.add_le_add_left (Nat.zero_le _) _
    have hle := hrequests s'.stdin
    rw [if_neg (by simp), Nat.zero_add, pumpWork, pumpWork, hpump]
    rcases hstdin with hsame | ⟨event, rfl, -⟩
    · rw [hsame] at hle ⊢
      exact hle.trans (Nat.le_add_right _ _)
    · exact hle.trans (s.pump.work_le_of_sink _ _ _)
  · have hlt := pumpWork_lt_of_stepPump hpump
    rw [if_pos rfl]
    omega
  · rw [if_neg hne, Nat.zero_add, pumpWork, pumpWork, hpump, hstdin, hmailbox]
    exact Nat.le_add_right _ _

/-- A message that is submitted adds its effort, unless it is refused at once. -/
lemma pumpWork_submit_le (s : Session) (line : Bytes) :
    ({ s with mailbox := s.mailbox.submit line } : Session).pumpWork ≤
      s.pumpWork + (8 * (line.length + 1) + 32) := by
  rw [pumpWork, pumpWork, s.pump.work_eq (s.mailbox.queue ++ s.mailbox.waiting),
    Pump.work_eq _ ((s.mailbox.submit line).queue ++ (s.mailbox.submit line).waiting)]
  have heffort : Pump.efforts [⟨s.mailbox.nextTicket, line⟩] = 8 * (line.length + 1) + 32 := rfl
  rcases s.mailbox.submit_cases line with ⟨-, hm⟩ | ⟨-, -, hm⟩ | ⟨-, hm⟩ <;>
    simp only [hm, Pump.efforts_append] <;> omega

/-! ### Standing still -/

/-- The pump of a session only leaves when the session has been told to stop. -/
lemma isShutdown_of_leaving {name : String} {config : Config} {turns : List Turn}
    (hrun : (create name config).run turns = some s) (hleaving : s.pump.isLeaving = true) :
    s.isShutdown = true := by
  refine run_induction (P := fun s => s.pump.isLeaving = true → s.isShutdown = true) ?_ hrun ?_ hleaving
  · intro s turn s' hbefore hstep hafter
    rcases reach_of_step hstep with ⟨e, -, hmeet⟩ | ⟨-, -, hpump⟩ | ⟨-, hpump, -⟩
    · obtain ⟨hpump, -, hkeep⟩ := pump_of_meet hmeet
      exact hkeep (hbefore (hpump ▸ hafter))
    · obtain ⟨m, hmove, hpump', -, -, -, hshut⟩ := mailbox_of_stepPump hpump
      rw [hshut]
      rcases Pump.leaves_of_step hmove (hpump' ▸ hafter) with ⟨htold, -⟩ | ⟨hold, hphase, -⟩
      · exact htold
      · exact hbefore (by simp [Pump.isLeaving, hphase])
    · exact isShutdown_of_step hstep (hbefore (hpump ▸ hafter))
  · intro hidle
    cases hidle

/-- Nothing disturbs a session: it is running, no message has failed, and the engine takes more. -/
structure Flows (s : Session) : Prop where
  started : s.stage = .started
  running : s.isShutdown = false
  unfailed : ∀ entry ∈ s.mailbox.resolved, entry.2 = none
  hasRoom : s.stdin.isReady = true

/-- While nothing disturbs a session, its pump waits for nothing but messages. -/
lemma Flows.rest_of_step {name : String} {config : Config} {turns : List Turn} (h : Flows s)
    (hrun : (create name config).run turns = some s) (hstep : s.step .pump = none) :
    s.pump.phase = .idle ∧ s.mailbox.queue = [] ∨ s.pump.phase = .deaf := by
  have hmove : s.pump.step s.isShutdown s.mailbox.queue.head? (0 < s.mailbox.handles) s.stdin = none := by
    by_contra hsome
    obtain ⟨⟨pump, stdin, act⟩, hmove⟩ := Option.ne_none_iff_exists'.mp hsome
    simp only [step, h.started, if_true, stepPump, hmove] at hstep
    cases act with
    | inner | take | answer ticket failure? => cases hstep
    | release hold => cases hold <;> cases hstep
  rcases Pump.waits_of_step hmove with ⟨hidle, hfirst⟩ | hdeaf | ⟨_, _, -, hfull⟩ | hdone
  · exact .inl ⟨hidle, List.head?_eq_none_iff.mp hfirst⟩
  · exact .inr hdeaf
  · rw [h.hasRoom] at hfull
    cases hfull
  · have hleft := isShutdown_of_leaving hrun (by simp [Pump.isLeaving, hdone])
    rw [h.running] at hleft
    cases hleft

end Session
end Traversal
