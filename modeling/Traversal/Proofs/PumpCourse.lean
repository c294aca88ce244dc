import Mathlib
import Traversal.Rig.Pump

/-!
# Courses of a pump

A course of a pump by itself is any order of turns: something happens around it, it takes a step, or
someone stops waiting for a reply.  This module says what the surroundings do in a turn, and that it makes
no difference to the rest who waits for a reply (`plain_course`).
-/

namespace Traversal.PumpRig

/-- One turn of a course. -/
inductive Turn
  | event (event : Event)
  /-- The pump takes a step, if it can. -/
  | pump
  /-- Nobody waits any more for what becomes of a message. -/
  | desert (ticket : Nat)
deriving DecidableEq, Repr

/-- A rig after a turn. -/
def turn (rig : PumpRig) : Turn → PumpRig
  | .event e => rig.apply e
  | .pump => rig.step.getD rig
  | .desert ticket => { rig with forgotten := ticket :: rig.forgotten }

/-- A rig after a course. -/
def course (rig : PumpRig) (turns : List Turn) : PumpRig :=
  turns.foldl turn rig

/-! ### What the surroundings do -/

/-- A reply changes nothing but the replies. -/
lemma reply_eq (rig : PumpRig) (ticket : Nat) (r : Reply) :
    ∃ replies, rig.reply ticket r = { rig with replies := replies } := by
  unfold reply
  split
  · exact ⟨rig.replies, rfl⟩
  · exact ⟨_, rfl⟩

/-- A queue that goes away is empty and closed. -/
lemma closeQueue_eq (rig : PumpRig) :
    ∃ replies, rig.closeQueue = { rig with queue := [], isQueueClosed := true, replies := replies } := by
  unfold closeQueue
  generalize rig.queue = queue
  suffices hall : ∀ replies, ∃ replies',
      queue.foldl (fun rig request => rig.reply request.ticket .dropped)
        { rig with queue := [], isQueueClosed := true, replies := replies } =
      { rig with queue := [], isQueueClosed := true, replies := replies' } from hall rig.replies
  induction queue with
  | nil => exact fun replies => ⟨replies, rfl⟩
  | cons request queue ih =>
    intro replies
    rw [List.foldl_cons]
    obtain ⟨replies', hreply⟩ := reply_eq
      { rig with queue := [], isQueueClosed := true, replies := replies } request.ticket .dropped
    rw [hreply]
    exact ih replies'

/-- A submitted message gets behind the others, or nothing but its number is used up. -/
lemma submit_cases (rig : PumpRig) (payload : Bytes) (isForgotten : Bool) :
    (∃ replies, rig.submit payload isForgotten =
      { rig with nextTicket := rig.nextTicket + 1, replies := replies }) ∨
    rig.isQueueClosed = false ∧ ∃ forgotten, rig.submit payload isForgotten =
      { rig with
        nextTicket := rig.nextTicket + 1
        queue := rig.queue ++ [⟨rig.nextTicket, payload⟩]
        forgotten := forgotten } := by
  have hrefuse : ∀ r, ∃ replies,
      { rig with nextTicket := rig.nextTicket + 1 }.reply rig.nextTicket r =
        { rig with nextTicket := rig.nextTicket + 1, replies := replies } :=
    fun r => reply_eq { rig with nextTicket := rig.nextTicket + 1 } rig.nextTicket r
  unfold submit
  simp only [Bool.not_eq_true']
  split
  · exact .inl (hrefuse .noSender)
  · split
    · exact .inl (hrefuse .queueClosed)
    · next hopen =>
      split
      · exact .inl (hrefuse .queueFull)
      · exact .inr ⟨by simpa using hopen, _, rfl⟩

/-- Of what others see, only taking a message and letting go of the queue matter to the queue. -/
lemma witness_cases (rig : PumpRig) {act : Pump.Act} (hact : act ≠ .take) :
    (∃ replies isClosed,
      rig.witness act = { rig with replies := replies, isStdinClosed := isClosed }) ∨
    act = .release .queue ∧ ∃ replies,
      rig.witness act = { rig with queue := [], isQueueClosed := true, replies := replies } := by
  cases act with
  | inner => exact .inl ⟨rig.replies, rig.isStdinClosed, rfl⟩
  | take => exact absurd rfl hact
  | answer ticket failure? =>
    obtain ⟨replies, hreply⟩ := rig.reply_eq ticket (.answered failure?)
    exact .inl ⟨replies, rig.isStdinClosed, hreply⟩
  | release hold =>
    cases hold with
    | stdin => exact .inl ⟨rig.replies, true, rfl⟩
    | queue => exact .inr ⟨rfl, rig.closeQueue_eq⟩

/-! ### Who waits for a reply -/

/-- A turn without what it says about who waits for a reply. -/
def Turn.plain? : Turn → Option Turn
  | .event (.submit payload _) => some (.event (.submit payload false))
  | .desert _ => none
  | t => some t

/-- A rig without what it knows about replies. -/
def plain (rig : PumpRig) : PumpRig :=
  { rig with forgotten := [], replies := [] }

@[simp] lemma plain_reply (rig : PumpRig) (ticket : Nat) (r : Reply) :
    (rig.reply ticket r).plain = rig.plain := by
  obtain ⟨replies, h⟩ := rig.reply_eq ticket r
  rw [h]
  rfl

@[simp] lemma plain_closeQueue (rig : PumpRig) :
    rig.closeQueue.plain = { rig.plain with queue := [], isQueueClosed := true } := by
  obtain ⟨replies, h⟩ := rig.closeQueue_eq
  rw [h]
  rfl

@[simp] lemma plain_plain (rig : PumpRig) : rig.plain.plain = rig.plain := rfl

/-- Submitting a message does the same to the rest of a rig whoever waits. -/
lemma plain_submit (rig : PumpRig) (payload : Bytes) (isForgotten : Bool) :
    (rig.submit payload isForgotten).plain = (rig.plain.submit payload false).plain := by
  have hrefuse : ∀ r, ({ rig with nextTicket := rig.nextTicket + 1 }.reply rig.nextTicket r).plain =
      ({ rig.plain with nextTicket := rig.nextTicket + 1 }.reply rig.nextTicket r).plain := by
    intro r
    rw [plain_reply, plain_reply]
    rfl
  by_cases hsenders : rig.hasSenders = true
  · by_cases hclosed : rig.isQueueClosed = true
    · simpa [submit, plain, hsenders, hclosed] using hrefuse .queueClosed
    · by_cases hfull : rig.capacity ≤ rig.queue.length
      · simpa [submit, plain, hsenders, hclosed, hfull] using hrefuse .queueFull
      · simp [submit, plain, hsenders, hclosed, hfull]
  · simpa [submit, plain, hsenders] using hrefuse .noSender

/-- What others see of a pump does the same to the rest of a rig whoever waits. -/
lemma plain_witness (rig : PumpRig) (act : Pump.Act) :
    (rig.witness act).plain = (rig.plain.witness act).plain := by
  cases act with
  | inner => rfl
  | take => rfl
  | answer ticket failure? => simp [witness]
  | release hold =>
    cases hold with
    | stdin => rfl
    | queue => simp [witness]

/-- What a turn does to the rest of a rig depends on the rest of the rig and of the turn. -/
lemma plain_turn (rig : PumpRig) (t : Turn) :
    (rig.turn t).plain = (t.plain?.elim rig.plain rig.plain.turn).plain := by
  cases t with
  | event e =>
    cases e with
    | submit payload isForgotten => exact rig.plain_submit payload isForgotten
    | sink e => rfl
    | dropSender => rfl
    | shutdown => rfl
  | pump =>
    cases hstep : rig.pump.step rig.isShutdown rig.queue.head? rig.hasSenders rig.stdin with
    | none => simp [turn, Turn.plain?, step, plain, hstep]
    | some m =>
      have hwitness := plain_witness { rig with pump := m.pump, stdin := m.stdin } m.act
      simpa [turn, Turn.plain?, step, plain, hstep] using hwitness
  | desert ticket => rfl

/-- Rigs that differ in what they know about replies only go on to differ in nothing else. -/
lemma plain_course_congr {rig rig' : PumpRig} (h : rig.plain = rig'.plain) (turns : List Turn) :
    (rig.course turns).plain = (rig'.course turns).plain := by
  induction turns generalizing rig rig' with
  | nil => exact h
  | cons t turns ih => exact ih (by rw [plain_turn, plain_turn rig', h])

/-- What a course does to the rest of a rig depends on the rest of the turns. -/
lemma plain_course (rig : PumpRig) (turns : List Turn) :
    (rig.course turns).plain = (rig.course (turns.filterMap Turn.plain?)).plain := by
  induction turns generalizing rig with
  | nil => rfl
  | cons t turns ih =>
    change ((rig.turn t).course turns).plain = _
    have hturn := plain_turn rig t
    cases hplain : t.plain? with
    | none =>
      rw [hplain, Option.elim_none, plain_plain] at hturn
      rw [List.filterMap_cons_none hplain, plain_course_congr hturn, ih]
    | some t' =>
      rw [hplain, Option.elim_some] at hturn
      have hrest : (rig.plain.turn t').plain = (rig.turn t').plain := by
        rw [plain_turn, plain_plain, ← plain_turn]
      rw [List.filterMap_cons_some hplain, plain_course_congr (hturn.trans hrest), ih]
      rfl

end Traversal.PumpRig
