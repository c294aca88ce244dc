import Mathlib
import Traversal.Proofs.Pump
import Traversal.Proofs.PumpCourse

/-!
# Replies

Whoever submits a message to a pump learns what becomes of it, unless nobody waits for the reply.
This module says what is replied in a turn, whether or not anybody waits: when the pump shows
something to others (`emitted_of_step`), when a message is submitted (`submit_outcome`), and which
part of that reaches somebody (`replies_turn`).
-/

namespace Traversal

/-- Whether a reply is about a message that has been accepted into the queue. -/
def Reply.isResolution : Reply → Bool
  | .answered _ => true
  | .dropped => true
  | _ => false

namespace PumpRig

/-! ### Replies -/

/-- The replies among these that somebody waits for. -/
def awaited (rig : PumpRig) (replies : List (Nat × Reply)) : List (Nat × Reply) :=
  replies.filter fun reply => !rig.forgotten.contains reply.1

/-- What is replied in a turn, whether or not anybody waits for it. -/
def emitted (rig : PumpRig) (t : Turn) : List (Nat × Reply) :=
  (rig.plain.turn t).replies

/-- What is replied when the pump shows this. -/
def shown (rig : PumpRig) : Pump.Act → List (Nat × Reply)
  | .answer ticket failure? => [(ticket, .answered failure?)]
  | .release .queue => rig.queue.map fun request => (request.ticket, .dropped)
  | _ => []

/-- Who waits for two groups of replies. -/
lemma awaited_append (rig : PumpRig) (before after : List (Nat × Reply)) :
    rig.awaited (before ++ after) = rig.awaited before ++ rig.awaited after :=
  List.filter_append ..

/-- If somebody waits for every reply, every reply reaches somebody. -/
lemma awaited_of_forgotten_eq_nil {rig : PumpRig} (h : rig.forgotten = [])
    (replies : List (Nat × Reply)) : rig.awaited replies = replies := by
  simp [awaited, h]

/-- A reply is added if somebody waits for it. -/
lemma replies_reply (rig : PumpRig) (ticket : Nat) (r : Reply) :
    (rig.reply ticket r).replies = rig.replies ++ rig.awaited [(ticket, r)] := by
  unfold reply awaited
  cases hforgotten : rig.forgotten.contains ticket <;> simp_all

/-- When the queue goes away, every message in it is dropped. -/
lemma replies_closeQueue (rig : PumpRig) :
    rig.closeQueue.replies =
      rig.replies ++ rig.awaited (rig.queue.map fun request => (request.ticket, .dropped)) := by
  unfold closeQueue
  generalize rig.queue = queue
  suffices hall : ∀ replies,
      (queue.foldl (fun (rig : PumpRig) request => rig.reply request.ticket .dropped)
        { rig with queue := [], isQueueClosed := true, replies := replies }).replies =
      replies ++ rig.awaited (queue.map fun request => (request.ticket, .dropped)) from hall rig.replies
  induction queue with
  | nil => simp [awaited]
  | cons request queue ih =>
    intro replies
    have hreply := replies_reply { rig with queue := [], isQueueClosed := true, replies := replies }
      request.ticket .dropped
    obtain ⟨replies', heq⟩ := reply_eq
      { rig with queue := [], isQueueClosed := true, replies := replies } request.ticket .dropped
    rw [heq] at hreply
    have hreplies : replies' = replies ++ rig.awaited [(request.ticket, .dropped)] := hreply
    rw [List.foldl_cons, heq, ih, hreplies, List.append_assoc, ← awaited_append]
    rfl

/-- What others see of a pump adds the replies that somebody waits for. -/
lemma replies_witness (rig : PumpRig) (act : Pump.Act) :
    (rig.witness act).replies = rig.replies ++ rig.awaited (rig.shown act) := by
  cases act with
  | inner | take => simp [witness, shown, awaited]
  | answer ticket failure? => exact rig.replies_reply ticket _
  | release hold =>
    cases hold with
    | stdin => simp [witness, shown, awaited]
    | queue => exact rig.replies_closeQueue

/-- What is replied in a step. -/
lemma emitted_of_step {rig : PumpRig} {m : Pump.Move} (hstep : rig.pump.step rig.isShutdown
      rig.queue.head? rig.hasSenders rig.stdin = some m) : rig.emitted .pump = rig.shown m.act := by
  have hwitness := replies_witness { rig.plain with pump := m.pump, stdin := m.stdin } m.act
  rw [awaited_of_forgotten_eq_nil rfl] at hwitness
  simp only [emitted, turn, step, plain, hstep, Option.map_some, Option.getD_some] at hwitness ⊢
  rw [hwitness]
  cases m.act with
  | release hold => cases hold <;> rfl
  | _ => rfl

/-- A message that is submitted is rejected, which leaves all as it is but for its number, or it gets
into the queue. -/
lemma submit_outcome (rig : PumpRig) (payload : Bytes) (isForgotten : Bool) :
    (∃ r, Reply.isResolution r = false ∧
      rig.emitted (.event (.submit payload isForgotten)) = [(rig.nextTicket, r)] ∧
      rig.submit payload isForgotten =
        { rig with
          nextTicket := rig.nextTicket + 1
          replies := rig.replies ++ rig.awaited [(rig.nextTicket, r)] }) ∨
    (rig.hasSenders = true ∧ rig.isQueueClosed = false ∧
      rig.emitted (.event (.submit payload isForgotten)) = [] ∧
      ∃ forgotten, rig.forgotten ⊆ forgotten ∧ rig.submit payload isForgotten =
        { rig with
          nextTicket := rig.nextTicket + 1
          queue := rig.queue ++ [⟨rig.nextTicket, payload⟩]
          forgotten := forgotten }) := by
  have hreject : ∀ r, Reply.isResolution r = false →
      rig.submit payload isForgotten =
        { rig with nextTicket := rig.nextTicket + 1 }.reply rig.nextTicket r →
      rig.plain.submit payload isForgotten =
        { rig.plain with nextTicket := rig.nextTicket + 1 }.reply rig.nextTicket r →
      ∃ r, Reply.isResolution r = false ∧
        rig.emitted (.event (.submit payload isForgotten)) = [(rig.nextTicket, r)] ∧
        rig.submit payload isForgotten =
          { rig with
            nextTicket := rig.nextTicket + 1
            replies := rig.replies ++ rig.awaited [(rig.nextTicket, r)] } := by
    intro r hr hsubmit hplain
    refine ⟨r, hr, ?_, ?_⟩
    · simp only [emitted, turn, apply, hplain]
      rw [replies_reply, awaited_of_forgotten_eq_nil rfl]
      rfl
    · have hreplies := replies_reply { rig with nextTicket := rig.nextTicket + 1 } rig.nextTicket r
      obtain ⟨replies, heq⟩ := reply_eq { rig with nextTicket := rig.nextTicket + 1 } rig.nextTicket r
      rw [heq] at hreplies
      rw [hsubmit, heq, show replies = _ from hreplies]
      rfl
  by_cases hsenders : rig.hasSenders = true
  · by_cases hclosed : rig.isQueueClosed = true
    · exact .inl (hreject .queueClosed rfl (by simp [submit, hsenders, hclosed])
        (by simp [submit, plain, hsenders, hclosed]))
    · by_cases hfull : rig.capacity ≤ rig.queue.length
      · exact .inl (hreject .queueFull rfl (by simp [submit, hsenders, hclosed, hfull])
          (by simp [submit, plain, hsenders, hclosed, hfull]))
      · refine .inr ⟨hsenders, by simpa using hclosed, ?_,
          if isForgotten then rig.nextTicket :: rig.forgotten else rig.forgotten, ?_, ?_⟩
        · simp [emitted, turn, apply, submit, plain, hsenders, hclosed, hfull]
        · split
          · exact List.subset_cons_self _ _
          · exact List.Subset.refl _
        · simp [submit, hsenders, hclosed, hfull]
  · exact .inl (hreject .noSender rfl (by simp [submit, hsenders]) (by simp [submit, plain, hsenders]))

/-- What others see of a pump does not change who waits for a reply. -/
lemma forgotten_witness (rig : PumpRig) (act : Pump.Act) :
    (rig.witness act).forgotten = rig.forgotten := by
  by_cases hact : act = .take
  · rw [hact]
    rfl
  · rcases rig.witness_cases hact with ⟨_, _, h⟩ | ⟨-, _, h⟩ <;> rw [h]

/-- A turn adds the replies that somebody waits for, and nobody begins to wait for a reply. -/
lemma replies_turn (rig : PumpRig) (t : Turn) :
    (rig.turn t).replies = rig.replies ++ rig.awaited (rig.emitted t) ∧
      rig.forgotten ⊆ (rig.turn t).forgotten := by
  have hquiet : ∀ t, rig.emitted t = [] → (rig.turn t).replies = rig.replies →
      rig.forgotten ⊆ (rig.turn t).forgotten →
      (rig.turn t).replies = rig.replies ++ rig.awaited (rig.emitted t) ∧
        rig.forgotten ⊆ (rig.turn t).forgotten := by
    intro t hemitted hreplies hforgotten
    rw [hemitted, hreplies]
    exact ⟨(List.append_nil _).symm, hforgotten⟩
  cases t with
  | event e =>
    cases e with
    | submit payload isForgotten =>
      simp only [turn, apply]
      rcases rig.submit_outcome payload isForgotten with ⟨r, -, hemitted, hsubmit⟩ |
        ⟨-, -, hemitted, forgotten, hsubset, hsubmit⟩
      · rw [hemitted, hsubmit]
        exact ⟨rfl, List.Subset.refl _⟩
      · rw [hemitted, hsubmit]
        exact ⟨(List.append_nil _).symm, hsubset⟩
    | sink e => exact hquiet _ rfl rfl (List.Subset.refl _)
    | dropSender => exact hquiet _ rfl rfl (List.Subset.refl _)
    | shutdown => exact hquiet _ rfl rfl (List.Subset.refl _)
  | pump =>
    cases hstep : rig.pump.step rig.isShutdown rig.queue.head? rig.hasSenders rig.stdin with
    | none =>
      have hsame : rig.turn .pump = rig := by simp [turn, step, hstep]
      have hemitted : rig.emitted .pump = [] := by simp [emitted, turn, step, plain, hstep]
      exact hquiet _ hemitted (by rw [hsame]) (by rw [hsame]; exact List.Subset.refl _)
    | some m =>
      have hturn : rig.turn .pump = { rig with pump := m.pump, stdin := m.stdin }.witness m.act := by
        simp [turn, step, hstep]
      rw [emitted_of_step hstep, hturn, forgotten_witness]
      refine ⟨(replies_witness _ _).trans ?_, List.Subset.refl _⟩
      cases m.act with
      | release hold => cases hold <;> rfl
      | _ => rfl
  | desert ticket => exact hquiet _ rfl rfl (List.subset_cons_self _ _)

end PumpRig
end Traversal
