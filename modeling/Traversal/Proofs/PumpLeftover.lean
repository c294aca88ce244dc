import Mathlib
import Traversal.Proofs.PumpDocket

/-!
# What a failed write leaves behind

The stream of a pump falls into pieces, one for each message that it has kept: the piece of a message
is as much of its record as has been written (`flatMap_share`).  A write that fails takes nothing back.
What of the record has not been written stays in the buffer (`left`), and goes out, behind anything older
in there, when the pump turns to the next message.

So a failed write is final if, and only if, it has left nothing in the buffer, or the pump never gets
that far again.  `share_of_failed` says how much of the record follows the reply, for every course before
it and every course behind it; `written_behind_failure` is a course on which the whole record does.
-/

namespace Traversal

namespace Pump

variable {isShutdown hasSenders : Bool} {first? : Option Request} {p : Pump} {k : Sink} {m : Move}

/-- Whether a pump is busy with a message that no shutdown has cut off. -/
def isBusy (p : Pump) : Bool :=
  match p.phase with
  | .poised _ _ _ => true
  | .pushing _ _ => true
  | .answering _ failure? => failure? ≠ some .writeCutOff
  | _ => false

/-- A pump that is busy has a message in hand. -/
lemma inHand_of_busy (h : p.isBusy = true) : p.inHand?.isSome = true := by
  unfold isBusy at h
  unfold inHand?
  split at h <;> simp_all

/-- A pump that does something about its message is busy with it. -/
lemma busy_of_inner {request : Request} (h : p.step isShutdown first? hasSenders k = some m)
    (hinHand : p.inHand? = some request) (hact : m.act = .inner) : p.isBusy = true := by
  unfold inHand? at hinHand
  split at hinHand
  · next hphase => simp [isBusy, hphase]
  · next hphase => simp [isBusy, hphase]
  · next hphase =>
    simp only [Pump.step, hphase, Option.some.injEq] at h
    subst h
    cases hact
  · cases hinHand

/-- A step puts the message that is still to go into the buffer there, or cuts it off, or moves no
message in or out.  Then all bytes stay in order, and a message that is taken waits, and one that is
lost has waited, to go into the buffer. -/
lemma placing_of_step (h : p.step isShutdown first? hasSenders k = some m) :
    (m.pump.unloaded?.toList ++ (lost? p m.pump).toList =
        p.unloaded?.toList ++ (taken? p m.pump).toList ∧
      m.stdin.written ++ m.pump.buffer = k.written ++ p.buffer ∧
      (m.pump.isBusy = true → isShutdown = false ∨ p.isBusy = true)) ∨
    ∃ request, p.unloaded? = some request ∧ m.pump.unloaded? = none ∧ lost? p m.pump = none ∧
      (m.stdin.written ++ m.pump.buffer = k.written ++ p.buffer ++ Record.encode request.payload ∧
          p.isBusy = true ∨
        isShutdown = true ∧ m.pump.isBusy = false) := by
  cases motion_of_step h with
  | rest hbefore hafter hact hclose hbuffer hstdin =>
    have hunloaded := unloaded_eq_none hbefore
    have hlost : lost? p m.pump = none := lost_eq_none (clearing_eq_none hunloaded)
    have hnotBusy : m.pump.isBusy = false := by
      by_contra hbusy
      have hsome := inHand_of_busy ((Bool.not_eq_false _).mp hbusy)
      rw [hafter] at hsome
      cases hsome
    refine .inl ⟨?_, by rw [hbuffer, hstdin], by simp [hnotBusy]⟩
    simp [hunloaded, hlost, taken?, hafter, unloaded_eq_none hafter]
  | take request hphase hshut hfirst hm =>
    subst hm
    have hbefore : p.inHand? = none := by simp [inHand?, hphase]
    have hunloaded := unloaded_eq_none hbefore
    have hlost : lost? p { p with phase := .poised request .clearing false } = none :=
      lost_eq_none (clearing_eq_none hunloaded)
    refine .inl ⟨?_, rfl, fun _ => .inl hshut⟩
    simp only [hunloaded, hlost, taken?, hbefore]
    rfl
  | carry request hbefore hafter hact hphase hunloaded hfailing hclearing hbytes =>
    refine .inl ⟨?_, hbytes, fun _ => .inr (busy_of_inner h hbefore hact)⟩
    simp [hunloaded, lost?, hfailing, taken_eq_none hbefore]
  | load request hbefore hafter hact hstdin =>
    have hbusy := busy_of_inner h (inHand_of_unloaded hbefore) hact
    refine .inr ⟨request, hbefore, ?_, ?_, .inl ⟨?_, hbusy⟩⟩
    · simp [hafter, unloaded?, Pump.load]
    · simp [hafter, lost?, failing?, Pump.load]
    · rw [hafter, hstdin, Pump.load, ← List.append_assoc]
  | settle request hbefore hunloaded failure? hafter hact hstdin =>
    have hlost : lost? p m.pump = none := lost_eq_none (clearing_eq_none hunloaded)
    refine .inl ⟨?_, by rw [hafter, hstdin], fun _ => .inr (busy_of_inner h hbefore hact)⟩
    rw [hlost, taken_eq_none hbefore, hunloaded, hafter]
    rfl
  | lose request hbefore failure hafter hact hstdin =>
    have hunloaded := unloaded_of_clearing hbefore
    have hinHand := inHand_of_unloaded hunloaded
    refine .inl ⟨?_, by rw [hafter, hstdin], fun _ => .inr (busy_of_inner h hinHand hact)⟩
    have hlost : lost? p m.pump = some request := by simp [lost?, failing?, hafter, hbefore]
    rw [hunloaded, hlost, taken_eq_none hinHand, hafter]
    rfl
  | cut request hphase hshut hm =>
    subst hm
    refine .inr ⟨request, by simp [unloaded?, hphase], rfl, ?_, .inr ⟨hshut, by simp [isBusy]⟩⟩
    exact lost_eq_none (by simp [clearing?, hphase])
  | answer request failure? hphase hm =>
    subst hm
    have hinHand : p.inHand? = some request := by simp [inHand?, hphase]
    have hunloaded : p.unloaded? = none := by simp [unloaded?, hphase]
    have hlost : lost? p { p with phase := .idle } = none :=
      lost_eq_none (clearing_eq_none hunloaded)
    refine .inl ⟨?_, rfl, fun hbusy => by simp [isBusy] at hbusy⟩
    rw [hlost, taken_eq_none hinHand, hunloaded]
    rfl

/-- Writing from the buffer takes nothing back that has been written. -/
lemma written_prefix_of_push (p : Pump) (request : Request) (stage : Stage) (k : Sink) :
    k.written <+: (p.push request stage k).stdin.written := by
  unfold push
  split
  · have hflush := k.written_flush
    split <;> next heq =>
      rw [heq] at hflush
      exact hflush.symm ▸ List.prefix_rfl
  · have hwrite := k.written_write p.buffer
    split <;> next heq =>
      rw [heq] at hwrite
      simp [hwrite]

/-- A step takes nothing back that has been written. -/
lemma written_prefix_of_step (h : p.step isShutdown first? hasSenders k = some m) :
    k.written <+: m.stdin.written := by
  unfold Pump.step at h
  cases hphase : p.phase with
  | pushing request stage =>
    simp only [hphase, Option.some.injEq] at h
    subst h
    exact p.written_prefix_of_push request stage k
  | done => simp [hphase] at h
  | _ =>
    -- All other steps leave the stream as it is.
    have hstdin : m.stdin = k := by
      simp only [hphase] at h
      repeat' split at h
      all_goals cases h <;> rfl
    rw [hstdin]

end Pump

namespace PumpRig

namespace Ledger

variable {l : Ledger}

/-! ### The pieces of a stream -/

/-- What of the record of a message is in a stream of records. -/
def piece : List Request → Bytes → Request → Bytes
  | [], _, _ => []
  | first :: rest, bytes, request =>
    let record := Record.encode first.payload
    if first = request then bytes.take record.length
    else piece rest (bytes.drop record.length) request

/-- A message has no piece of a stream that is not about it. -/
lemma piece_of_notMem {requests : List Request} {request : Request} (h : request ∉ requests)
    (bytes : Bytes) : piece requests bytes request = [] := by
  induction requests generalizing bytes with
  | nil => rfl
  | cons first rest ih =>
    have hne : first ≠ request := fun heq => h (heq ▸ List.mem_cons_self ..)
    have hrest : request ∉ rest := fun hmem => h (List.mem_cons_of_mem _ hmem)
    rw [piece, if_neg hne, ih hrest]

/-- The piece of a message begins behind the records of those before it. -/
lemma piece_append {before : List Request} {request : Request} (h : request ∉ before)
    (after : List Request) (bytes : Bytes) :
    piece (before ++ request :: after) bytes request =
      (bytes.drop (records before).length).take (Record.encode request.payload).length := by
  induction before generalizing bytes with
  | nil => simp [piece]
  | cons first rest ih =>
    have hne : first ≠ request := fun heq => h (heq ▸ List.mem_cons_self ..)
    have hrest : request ∉ rest := fun hmem => h (List.mem_cons_of_mem _ hmem)
    have hrecords : (records (first :: rest)).length =
        (Record.encode first.payload).length + (records rest).length := by
      rw [← List.singleton_append, records_append, List.length_append, records_singleton]
    rw [List.cons_append, piece, if_neg hne, ih hrest, List.drop_drop, hrecords]

/-- The pieces of a stream make it up. -/
lemma flatMap_piece {requests : List Request} (hnodup : requests.Nodup) {bytes : Bytes}
    (h : bytes <+: records requests) : requests.flatMap (piece requests bytes) = bytes := by
  induction requests generalizing bytes with
  | nil => exact (List.prefix_nil.mp h).symm
  | cons first rest ih =>
    obtain ⟨hnew, hrest⟩ := List.nodup_cons.mp hnodup
    set record := Record.encode first.payload with hrecord
    have hdrop : bytes.drop record.length <+: records rest := by
      have hshift := h.drop record.length
      rwa [← List.singleton_append, records_append, records_singleton, List.drop_left] at hshift
    have hothers : rest.flatMap (piece (first :: rest) bytes) =
        rest.flatMap (piece rest (bytes.drop record.length)) := by
      refine List.flatMap_congr fun request hmem => ?_
      have hne : first ≠ request := fun heq => hnew (heq ▸ hmem)
      rw [piece, if_neg hne]
    rw [List.flatMap_cons, hothers, ih hrest hdrop, piece, if_pos rfl, ← hrecord,
      List.take_append_drop]

/-- What of the record of a message has been written. -/
def share (l : Ledger) (request : Request) : Bytes :=
  piece l.kept l.rig.stdin.written request

/-- What of the record of a message has not been written, unless the message was lost. -/
def left (l : Ledger) (request : Request) : Bytes :=
  if l.isLost request then []
  else (Record.encode request.payload).drop (l.share request).length

/-- The messages taken are different. -/
lemma Books.nodup_taken (h : Books l) : l.taken.Nodup :=
  (h.nodup.sublist (h.taken_prefix.sublist.map _)).of_map _

/-- The messages kept are different. -/
lemma Books.nodup_kept (h : Books l) : l.kept.Nodup :=
  h.nodup_taken.sublist List.filter_sublist

/-- The stream is made up of what has been written of the messages kept, in their order. -/
theorem Books.flatMap_share (h : Books l) : l.kept.flatMap l.share = l.rig.stdin.written :=
  flatMap_piece h.nodup_kept ((List.prefix_append ..).trans h.bounded)

/-- Nothing of a message that was lost has been written. -/
lemma share_of_lost {request : Request} (h : l.isLost request = true) : l.share request = [] := by
  refine piece_of_notMem (fun hmem => ?_) _
  simp [kept, h] at hmem

/-! ### What the buffer holds -/

/-- The messages kept, without one that is still to go into the buffer. -/
def placed (l : Ledger) : List Request :=
  if l.rig.pump.unloaded?.isSome then l.kept.dropLast else l.kept

/-- While a pump is busy, and until it has been told to stop, what has been written and what is in the
buffer are the records of the messages placed. -/
def IsWhole (l : Ledger) : Prop :=
  l.rig.isShutdown = false ∨ l.rig.pump.isBusy = true →
    l.rig.stdin.written ++ l.rig.pump.buffer = records l.placed

/-- All messages are placed but for the one that is still to go into the buffer. -/
lemma Books.kept_eq_placed (h : Books l) : l.kept = l.placed ++ l.rig.pump.unloaded?.toList := by
  cases hunloaded : l.rig.pump.unloaded? with
  | none => simp [placed, hunloaded]
  | some request =>
    have hlast := h.kept_eq_append ⟨request, 0⟩ hunloaded
    rw [placed, hunloaded, if_pos (by rfl), hlast, List.dropLast_concat]
    rfl

/-- A turn in which no message is taken and none is lost keeps the same messages. -/
lemma kept_congr {l' : Ledger} (htaken : l'.taken = l.taken) (hlosses : l'.losses = l.losses) :
    l'.kept = l.kept := by
  unfold kept isLost
  rw [htaken, hlosses]

/-- A step keeps the message that it takes, and all others but the one that it loses. -/
lemma Books.kept_step (h : Books l) {m : Pump.Move}
    (hstep : l.rig.pump.step l.rig.isShutdown l.rig.queue.head? l.rig.hasSenders l.rig.stdin =
      some m) :
    (l.turn .pump).kept ++ (Pump.lost? l.rig.pump m.pump).toList =
      l.kept ++ (Pump.taken? l.rig.pump m.pump).toList := by
  have hafter := (h.step hstep).nodup_taken
  rw [turn_of_step hstep] at hafter ⊢
  cases hlost : Pump.lost? l.rig.pump m.pump with
  | none =>
    cases htaken : Pump.taken? l.rig.pump m.pump with
    | none => simp [kept, isLost]
    | some request =>
      rw [htaken, Option.toList_some, List.nodup_append] at hafter
      have hnew : request ∉ l.taken :=
        fun hmem => hafter.2.2 _ hmem _ (List.mem_singleton_self _) rfl
      have hkeep := h.isLost_eq_false hnew
      unfold isLost at hkeep
      simp [kept, isLost, hkeep]
  | some request =>
    have hclearing : l.rig.pump.clearing? = some request := by
      unfold Pump.lost? at hlost
      split at hlost
      · exact hlost
      · cases hlost
    have hunloaded := Pump.unloaded_of_clearing hclearing
    have htaken : Pump.taken? l.rig.pump m.pump = none :=
      Pump.taken_eq_none (Pump.inHand_of_unloaded hunloaded)
    rw [htaken, h.kept_eq_append ⟨request, l.backlog⟩ hunloaded]
    simp [kept, isLost]

/-- What others see of a pump writes nothing, and does not tell it to stop. -/
lemma stdin_witness (rig : PumpRig) (act : Pump.Act) :
    (rig.witness act).stdin = rig.stdin ∧ (rig.witness act).isShutdown = rig.isShutdown := by
  by_cases hact : act = .take
  · rw [hact]
    exact ⟨rfl, rfl⟩
  · rcases rig.witness_cases hact with ⟨_, _, h⟩ | ⟨-, _, h⟩ <;> rw [h] <;> exact ⟨rfl, rfl⟩

/-- A step of the pump leaves the messages that have been placed where they are, and leaves nothing
out. -/
lemma Books.placed_step (h : Books l) {m : Pump.Move}
    (hstep : l.rig.pump.step l.rig.isShutdown l.rig.queue.head? l.rig.hasSenders l.rig.stdin =
      some m) :
    l.placed <+: (l.turn .pump).placed ∧ (IsWhole l → IsWhole (l.turn .pump)) := by
  have hrig : (l.turn .pump).rig = { l.rig with pump := m.pump, stdin := m.stdin }.witness m.act :=
    congrArg Ledger.rig (turn_of_step hstep)
  have hpump : (l.turn .pump).rig.pump = m.pump := by
    rw [hrig, pump_witness]
  obtain ⟨hstdin, hshut⟩ := stdin_witness { l.rig with pump := m.pump, stdin := m.stdin } m.act
  rw [← hrig] at hstdin hshut
  have hkept := h.kept_step hstep
  rw [h.kept_eq_placed, (h.step hstep).kept_eq_placed, hpump, List.append_assoc,
    List.append_assoc] at hkept
  unfold IsWhole
  rw [hpump, hstdin, hshut]
  rcases Pump.placing_of_step hstep with ⟨hsame, hbytes, hbusy⟩ |
    ⟨request, hunloaded, hafter, hlost, hgoes⟩
  · rw [hsame, List.append_cancel_right_eq] at hkept
    rw [hkept, hbytes]
    refine ⟨List.prefix_rfl, fun hwhole hcase => hwhole ?_⟩
    exact hcase.elim .inl hbusy
  · have htaken : Pump.taken? l.rig.pump m.pump = none :=
      Pump.taken_eq_none (Pump.inHand_of_unloaded hunloaded)
    rw [hunloaded, hafter, hlost, htaken] at hkept
    have hplaced : (l.turn .pump).placed = l.placed ++ [request] := by simpa using hkept
    rw [hplaced]
    refine ⟨List.prefix_append .., fun hwhole hcase => ?_⟩
    rcases hgoes with ⟨hbytes, hbusy⟩ | ⟨hstop, hnotBusy⟩
    · rw [hbytes, hwhole (.inr hbusy), records_append, records_singleton]
    · simp [hstop, hnotBusy] at hcase

/-- A turn that is not the pump's leaves the pump, the messages and the stream as they are. -/
lemma turn_of_other (l : Ledger) {t : Turn} (ht : t ≠ .pump) :
    (l.turn t).rig.pump = l.rig.pump ∧ (l.turn t).kept = l.kept ∧
      (l.turn t).rig.stdin.written = l.rig.stdin.written ∧
      ((l.turn t).rig.isShutdown = false → l.rig.isShutdown = false) := by
  have hrig : (l.rig.turn t).pump = l.rig.pump ∧
      (l.rig.turn t).stdin.written = l.rig.stdin.written ∧
      ((l.rig.turn t).isShutdown = false → l.rig.isShutdown = false) := by
    cases t with
    | event e =>
      cases e with
      | submit payload isForgotten =>
        simp only [PumpRig.turn, PumpRig.apply]
        rcases l.rig.submit_cases payload isForgotten with ⟨_, h⟩ | ⟨-, _, h⟩ <;> rw [h] <;> simp
      | sink e => simp [PumpRig.turn, PumpRig.apply]
      | dropSender => simp [PumpRig.turn, PumpRig.apply]
      | shutdown => simp [PumpRig.turn, PumpRig.apply]
    | pump => exact absurd rfl ht
    | desert ticket => simp [PumpRig.turn]
  obtain ⟨hpump, hwritten, hshut⟩ := hrig
  refine ⟨hpump, kept_congr ?_ ?_, hwritten, hshut⟩
  · simp [turn, hpump]
  · simp [turn, hpump]

/-- What an earlier ledger says and a later one still does. -/
structure Extends (earlier later : Ledger) : Prop where
  placed : earlier.placed <+: later.placed
  losses : earlier.losses <+: later.losses
  written : earlier.rig.stdin.written <+: later.rig.stdin.written

/-- What a turn adds to a ledger, and that it leaves nothing out. -/
lemma Books.extends_turn (h : Books l) (t : Turn) :
    Extends l (l.turn t) ∧ (IsWhole l → IsWhole (l.turn t)) := by
  have hlosses : l.losses <+: (l.turn t).losses := List.prefix_append ..
  by_cases ht : t = .pump
  · subst ht
    cases hstep : l.rig.pump.step l.rig.isShutdown l.rig.queue.head? l.rig.hasSenders l.rig.stdin with
    | none =>
      have hturn : l.turn .pump = l := by
        simp [Ledger.turn, PumpRig.turn, PumpRig.step, hstep]
      rw [hturn]
      exact ⟨⟨List.prefix_rfl, List.prefix_rfl, List.prefix_rfl⟩, id⟩
    | some m =>
      obtain ⟨hplaced, hwhole⟩ := h.placed_step hstep
      refine ⟨⟨hplaced, hlosses, ?_⟩, hwhole⟩
      rw [turn_of_step hstep, (stdin_witness _ _).1]
      exact Pump.written_prefix_of_step hstep
  · obtain ⟨hpump, hkept, hwritten, hshut⟩ := turn_of_other l ht
    have hplaced : (l.turn t).placed = l.placed := by rw [placed, placed, hpump, hkept]
    refine ⟨⟨?_, hlosses, ?_⟩, ?_⟩
    · rw [hplaced]
    · rw [hwritten]
    · unfold IsWhole
      rw [hplaced, hpump, hwritten]
      exact fun hwhole hcase => hwhole (hcase.imp_left hshut)

/-- What a course adds to a ledger, and that it leaves nothing out. -/
lemma Books.extends_course (h : Books l) (hwhole : IsWhole l) (turns : List Turn) :
    Extends l (l.course turns) ∧ Books (l.course turns) ∧ IsWhole (l.course turns) := by
  induction turns using List.reverseRecOn with
  | nil => exact ⟨⟨List.prefix_rfl, List.prefix_rfl, List.prefix_rfl⟩, h, hwhole⟩
  | append_singleton turns t ih =>
    rw [course, List.foldl_append]
    obtain ⟨hextends, hbooks, hwhole⟩ := ih
    obtain ⟨hmore, hstill⟩ := hbooks.extends_turn t
    refine ⟨⟨?_, ?_, ?_⟩, hbooks.turn t, hstill hwhole⟩
    · exact hextends.placed.trans hmore.placed
    · exact hextends.losses.trans hmore.losses
    · exact hextends.written.trans hmore.written

/-- At the start nothing is left out. -/
lemma isWhole_start (capacity : Nat) : IsWhole (start capacity) := by
  intro _
  simp [start, placed, kept, Sink.written]

/-! ### What follows a failed write -/

/-- What has been written of the record of a message ends where the stream does, or where the record
does. -/
lemma share_eq_take {before after : List Request} {request : Request} (h : Books l)
    (hkept : l.kept = before ++ request :: after) :
    l.share request =
      (Record.encode request.payload).take (l.rig.stdin.written.length - (records before).length) := by
  have hnew : request ∉ before := by
    intro hmem
    have hnodup := h.nodup_kept
    rw [hkept, List.nodup_append] at hnodup
    exact hnodup.2.2 _ hmem _ (List.mem_cons_self ..) rfl
  set record := Record.encode request.payload with hrecord
  have hrecords : records l.kept = records before ++ (record ++ records after) := by
    rw [hkept, ← List.singleton_append, records_append, records_append, records_singleton]
  have hfront : l.rig.stdin.written <+: records l.kept := (List.prefix_append ..).trans h.bounded
  rw [List.prefix_iff_eq_take, hrecords] at hfront
  have hbehind : l.rig.stdin.written.drop (records before).length =
      (record ++ records after).take (l.rig.stdin.written.length - (records before).length) := by
    have hdrop := congrArg (List.drop (records before).length) hfront
    rwa [List.drop_take, List.drop_left] at hdrop
  rw [share, hkept, piece_append hnew, hbehind, ← hrecord, List.take_take,
    List.take_append_of_le_length (min_le_left ..), List.take_eq_take_iff]
  omega

/-- What is left of a record is what has not been written of it. -/
lemma share_append_left (h : Books l) {before after : List Request} {request : Request}
    (hkept : l.kept = before ++ request :: after) :
    l.share request ++ l.left request = Record.encode request.payload := by
  have hmem : request ∈ l.kept := hkept ▸ List.mem_append_right _ (List.mem_cons_self ..)
  have hnotLost : l.isLost request = false := by simpa using (List.mem_filter.mp hmem).2
  have hshare : l.share request <+: Record.encode request.payload := by
    rw [share_eq_take h hkept]
    exact List.take_prefix ..
  obtain ⟨rest, hrest⟩ := hshare
  rw [left, hnotLost, if_neg (by simp), ← hrest, List.drop_left]

/-- What is left of a record begins where what has been written of it ends. -/
lemma left_eq_drop (h : Books l) {before after : List Request} {request : Request}
    (hkept : l.kept = before ++ request :: after) :
    l.left request =
      (Record.encode request.payload).drop (l.rig.stdin.written.length - (records before).length) := by
  have hsplit := share_append_left h hkept
  rw [share_eq_take h hkept] at hsplit
  exact List.append_cancel_left (hsplit.trans (List.take_append_drop ..).symm)

/-- What a message that is kept, and no other one behind it, has left is the end of the buffer. -/
lemma buffer_eq_append_left (h : Books l) {before : List Request} {request : Request}
    (hkept : l.kept = before ++ [request])
    (hbytes : l.rig.stdin.written ++ l.rig.pump.buffer = records l.kept) :
    l.rig.pump.buffer = (records before).drop l.rig.stdin.written.length ++ l.left request := by
  have hdrop := congrArg (List.drop l.rig.stdin.written.length) hbytes
  rwa [List.drop_left, hkept, records_append, records_singleton, List.drop_append,
    ← left_eq_drop h hkept] at hdrop

/-- A message that is answered with a failed write is the last one kept, or it was lost; nothing of the
messages kept is missing. -/
lemma kept_of_failed (h : Books l) (hwhole : IsWhole l) {request : Request} {fault : IoFault}
    (hphase : l.rig.pump.phase = .answering request (some (.writeFailed fault))) :
    l.placed = l.kept ∧ l.rig.stdin.written ++ l.rig.pump.buffer = records l.kept ∧
      (l.isLost request = false → ∃ before, l.kept = before ++ [request]) := by
  have hunloaded : l.rig.pump.unloaded? = none := by simp [Pump.unloaded?, hphase]
  have hplaced : l.placed = l.kept := by simp [placed, hunloaded]
  have hbytes := hwhole (.inr (by simp [Pump.isBusy, hphase]))
  obtain ⟨before, htaken⟩ := h.of_inHand request (by simp [Pump.inHand?, hphase])
  refine ⟨hplaced, hplaced ▸ hbytes, fun hnotLost => ⟨before.filter (!l.isLost ·), ?_⟩⟩
  simp [kept, htaken, hnotLost]

/-- A message that was lost has nothing left. -/
lemma left_of_lost {request : Request} (h : l.isLost request = true) : l.left request = [] :=
  if_pos h

/-- A message that was lost stays so. -/
lemma Extends.isLost {l' : Ledger} (h : Extends l l') {request : Request}
    (hlost : l.isLost request = true) : l'.isLost request = true := by
  obtain ⟨more, hmore⟩ := h.losses
  unfold Ledger.isLost at hlost ⊢
  rw [← hmore, List.any_append, hlost, Bool.true_or]

/-- A message that was kept, when none was to go into the buffer, is kept in its place. -/
lemma Extends.kept_prefix {l' : Ledger} (h : Extends l l') (h' : Books l') (hplaced : l.placed = l.kept) :
    l.kept <+: l'.kept := by
  rw [← hplaced, h'.kept_eq_placed]
  exact h.placed.trans (List.prefix_append ..)

/-- How much of the record of a message is written behind a reply that its write has failed. -/
lemma share_of_extends {l' : Ledger} (h : Books l) (hwhole : IsWhole l) (h' : Books l')
    (hextends : Extends l l') {request : Request} {fault : IoFault}
    (hphase : l.rig.pump.phase = .answering request (some (.writeFailed fault)))
    {older fresh : Bytes} (holder : l.rig.pump.buffer = older ++ l.left request)
    (hfresh : l'.rig.stdin.written = l.rig.stdin.written ++ fresh) :
    l'.share request = l.share request ++ (l.left request).take (fresh.length - older.length) := by
  cases hlost : l.isLost request with
  | true =>
    rw [share_of_lost (hextends.isLost hlost), share_of_lost hlost, left_of_lost hlost,
      List.take_nil, List.append_nil]
  | false =>
    obtain ⟨hplaced, hbytes, hlast⟩ := kept_of_failed h hwhole hphase
    obtain ⟨before, hkept⟩ := hlast hlost
    obtain ⟨rest, hrest⟩ := hextends.kept_prefix h' hplaced
    have hkept' : l'.kept = before ++ request :: rest := by
      rw [← hrest, hkept, List.append_assoc, List.singleton_append]
    have hlength : older.length = (records before).length - l.rig.stdin.written.length := by
      have hbuffer := buffer_eq_append_left h hkept hbytes
      rw [List.append_cancel_right (holder.symm.trans hbuffer), List.length_drop]
    rw [share_eq_take h' hkept', share_eq_take h hkept, left_eq_drop h hkept, ← List.take_add, hfresh,
      List.length_append, hlength]
    congr 1
    omega

/-- When a later message is answered well, the whole buffer has gone out. -/
lemma length_of_success {l' : Ledger} (h : Books l) (hwhole : IsWhole l) (hwhole' : IsWhole l')
    (hextends : Extends l l') {request other : Request} {fault : IoFault}
    (hphase : l.rig.pump.phase = .answering request (some (.writeFailed fault)))
    (hphase' : l'.rig.pump.phase = .answering other none) (hbuffer : l'.rig.pump.buffer = [])
    {fresh : Bytes} (hfresh : l'.rig.stdin.written = l.rig.stdin.written ++ fresh) :
    l.rig.pump.buffer.length ≤ fresh.length := by
  obtain ⟨hplaced, hbytes, -⟩ := kept_of_failed h hwhole hphase
  have hbytes' := hwhole' (.inr (by simp [Pump.isBusy, hphase']))
  obtain ⟨rest, hrest⟩ := hextends.placed
  rw [hbuffer, List.append_nil, hfresh, ← hrest, hplaced, records_append, ← hbytes,
    List.append_assoc, List.append_cancel_left_eq] at hbytes'
  rw [hbytes', List.length_append]
  omega

end Ledger

/-- Whatever happens around a pump, and whenever it has its turns: when a message is answered with a
failed write, the part of its record that has not been written is the end of the buffer, behind what is
older there, unless the message was lost.  Of what is written later, the first bytes are the older ones,
and the next ones are that part of the record.  So the reply is final if nothing of the record is left,
or if the pump never gets beyond the older bytes; and as soon as a later message is answered well, the
whole record of the failed one has gone out before it. -/
theorem share_of_failed (capacity : Nat) (turns : List Turn) (request : Request) (fault : IoFault)
    (haccepted : request ∈ ((Ledger.start capacity).course turns).accepted)
    (hfailed : (request.ticket, .answered (some (.writeFailed fault))) ∈
      ((Ledger.start capacity).course turns).rig.emitted .pump) :
    let l := (Ledger.start capacity).course turns
    l.share request ++ l.left request =
        (if l.isLost request then [] else Record.encode request.payload) ∧
      ∃ older, l.rig.pump.buffer = older ++ l.left request ∧
        ∀ later,
          let l' := l.course (.pump :: later)
          ∃ fresh, l'.rig.stdin.written = l.rig.stdin.written ++ fresh ∧
            l'.kept.flatMap l'.share = l'.rig.stdin.written ∧
            l'.share request =
              l.share request ++ (l.left request).take (fresh.length - older.length) ∧
            (l'.share request = l.share request ↔
              l.left request = [] ∨ fresh.length ≤ older.length) ∧
            ∀ other, (other, .answered none) ∈ l'.rig.emitted .pump →
              l'.share request = l.share request ++ l.left request := by
  intro l
  have hstart := (Ledger.books_start capacity).extends_course (Ledger.isWhole_start capacity)
  obtain ⟨-, h, hwhole⟩ : _ ∧ l.Books ∧ l.IsWhole := hstart turns
  obtain ⟨answered, hticket, hphase⟩ := answering_of_emitted hfailed
  obtain rfl : answered = request := by
    obtain ⟨before, htaken⟩ := h.of_inHand answered (by simp [l, Pump.inHand?, hphase])
    have hmem : answered ∈ l.accepted := h.taken_prefix.subset (by simp [htaken])
    exact List.inj_on_of_nodup_map h.nodup hmem haccepted hticket
  obtain ⟨hplaced, hbytes, hlast⟩ := Ledger.kept_of_failed h hwhole hphase
  refine ⟨?_, ?_⟩
  · cases hlost : l.isLost answered with
    | true => simp [Ledger.share_of_lost hlost, Ledger.left_of_lost hlost]
    | false =>
      obtain ⟨before, hkept⟩ := hlast hlost
      simpa using Ledger.share_append_left h hkept
  · obtain ⟨older, holder⟩ : ∃ older, l.rig.pump.buffer = older ++ l.left answered := by
      cases hlost : l.isLost answered with
      | true => exact ⟨l.rig.pump.buffer, by simp [Ledger.left_of_lost hlost]⟩
      | false =>
        obtain ⟨before, hkept⟩ := hlast hlost
        exact ⟨_, Ledger.buffer_eq_append_left h hkept hbytes⟩
    refine ⟨older, holder, fun later => ?_⟩
    intro l'
    obtain ⟨hextends, h', hwhole'⟩ : l.Extends l' ∧ l'.Books ∧ l'.IsWhole :=
      h.extends_course hwhole (.pump :: later)
    obtain ⟨fresh, hfresh⟩ := hextends.written
    have hshare := Ledger.share_of_extends h hwhole h' hextends hphase holder hfresh.symm
    refine ⟨fresh, hfresh.symm, h'.flatMap_share, hshare, ?_, fun other hother => ?_⟩
    · rw [hshare, List.append_right_eq_self, List.take_eq_nil_iff, or_comm, Nat.sub_eq_zero_iff_le]
    · obtain ⟨next, -, hphase'⟩ := answering_of_emitted hother
      have hledger : ((Docket.start capacity).course (turns ++ .pump :: later)).ledger = l' := by
        rw [Docket.ledger_course]
        exact List.foldl_append ..
      have hbuffer : l'.rig.pump.buffer = [] := by
        rw [← hledger] at hother ⊢
        obtain ⟨_, -, -, -, hempty, -⟩ := (Docket.orderly_course capacity _).of_answered hother
        exact hempty
      have hlength := Ledger.length_of_success h hwhole hwhole' hextends hphase hphase' hbuffer
        hfresh.symm
      rw [holder, List.length_append] at hlength
      rw [hshare, List.take_of_length_le]
      omega

/-- A message whose record has been written before the flush failed is not written again. -/
theorem share_of_failed_flush :
    let fault : IoFault := .described "broken"
    let request : Request := ⟨0, [97, 98]⟩
    let turns : List Turn := [.event (.sink (.flushFault fault)), .event (.submit [97, 98] false)] ++
      List.replicate 4 .pump
    let l := (Ledger.start 4).course turns
    let l' := l.course (.pump :: .event (.submit [99] false) :: List.replicate 8 .pump)
    request ∈ l.accepted ∧ (0, .answered (some (.writeFailed fault))) ∈ l.rig.emitted .pump ∧
      l.share request = [97, 98, 10] ∧ l'.share request = l.share request ∧
      l'.rig.stdin.written = [97, 98, 10, 99, 10] := by
  intro fault request turns l l'
  have haccepted : request ∈ l.accepted := by decide +kernel
  have hfailed : (0, .answered (some (.writeFailed fault))) ∈ l.rig.emitted .pump := by
    decide +kernel
  obtain ⟨-, older, -, hlater⟩ := share_of_failed 4 turns request fault haccepted hfailed
  obtain ⟨fresh, -, -, -, hfinal, -⟩ :=
    hlater (.event (.submit [99] false) :: List.replicate 8 .pump)
  have hleft : l.left request = [] := by decide +kernel
  exact ⟨haccepted, hfailed, by decide +kernel, hfinal.mpr (.inl hleft), by decide +kernel⟩

/-- The write of a message fails at its first byte, and nothing of it has been written when that is
replied.  The next message takes the whole record along. -/
theorem written_behind_failure :
    let fault : IoFault := .described "broken"
    let request : Request := ⟨0, [97, 98]⟩
    let turns : List Turn := [.event (.sink (.writeFault (.fails fault) 0)),
      .event (.submit [97, 98] false)] ++ List.replicate 3 .pump
    let l := (Ledger.start 4).course turns
    let l' := l.course (.pump :: .event (.submit [99] false) :: List.replicate 8 .pump)
    request ∈ l.accepted ∧ (0, .answered (some (.writeFailed fault))) ∈ l.rig.emitted .pump ∧
      l.rig.stdin.written = [] ∧ l.share request = [] ∧
      l'.rig.stdin.written = [97, 98, 10, 99, 10] ∧ l'.share request = [97, 98, 10] := by
  decide +kernel

end PumpRig
end Traversal
