import Traversal.Session.Notice
import Traversal.Session.Slot

/-!
# The controller

The controller of a session waits for its outcome: the negotiated path, or the first failure that counts.
It looks at one source after the other, always in the same order: the result slot, the notices, the timer
that bounds the wait for the engine's output, and the caller's wish to cancel.  What it finds first
decides; then it looks at all of them again from the start.  Every look is a step of its own, and others
may move in between.

An engine that ends with a failure may have left output that has not been read yet.  Its failure is held
back until the router has come to its end or the timer runs out, for a path among that output counts more.

Once the outcome is known, the tasks are told to stop and waited for before the session is over.
-/

namespace Traversal

/-- How a session ends. -/
inductive Outcome
  /-- With the negotiated path. -/
  | connected (t : FiveTuple)
  | failed (failure : Failure)
deriving DecidableEq, Repr

/-- The sources that decide on a session, in the order in which they are looked at. -/
inductive Branch
  | result
  | notices
  | drain
  | cancel
deriving DecidableEq, Repr

/-- What a controller is about to do. -/
inductive Controller.Phase
  /-- To look at a source. -/
  | polling (branch : Branch)
  /-- To wait until one of the sources has something. -/
  | parked
  /-- To tell the tasks to stop. -/
  | stopping (outcome : Outcome)
  /-- To stop listening to notices. -/
  | leaving (outcome : Outcome)
  /-- To wait for the tasks. -/
  | joining (outcome : Outcome)
  /-- To remove the engine's file and the result slot. -/
  | clearing (outcome : Outcome)
  | returned (outcome : Outcome)
  /-- Nobody waits for the outcome any more. -/
  | abandoned
deriving DecidableEq, Repr

/-- What others see of a step. -/
inductive Controller.Act
  | inner
  /-- The first notice has been taken. -/
  | take
  | stop
  | leave
  | clear
deriving DecidableEq, Repr

/-- The task that decides on the outcome of a session. -/
structure Controller where
  /-- The time that a failed engine's output may take to be read. -/
  grace : Nat
  /-- The result slot may still be filled, as far as the controller knows. -/
  isResultOpen : Bool := true
  /-- There may be more notices, as far as the controller knows. -/
  isNoticesOpen : Bool := true
  /-- The failure of the engine that is held back, and until when. -/
  held : Option (Failure × Nat) := none
  phase : Controller.Phase := .polling .result
deriving DecidableEq, Repr

/-- What a controller can look at. -/
structure Controller.View where
  now : Nat
  slot : Slot
  notices : List Notice
  /-- Whether there may be more notices. -/
  hasSenders : Bool
  isCancelled : Bool
  /-- Whether all tasks are done. -/
  areTasksDone : Bool
deriving DecidableEq, Repr

namespace Controller

/-- A controller after a step, and what others see. -/
structure Move where
  controller : Controller
  act : Act := .inner
deriving DecidableEq, Repr

/-- The outcome is known. -/
def decide (c : Controller) (outcome : Outcome) : Controller :=
  { c with phase := .stopping outcome }

/-- Looks at everything again from the start. -/
def restart (c : Controller) : Controller :=
  { c with phase := .polling .result }

/-- Looks at the next source. -/
def pass (c : Controller) (branch : Branch) : Move :=
  { controller := { c with phase := .polling branch } }

/-- A source is exhausted, which decides if a failure is held back. -/
def exhaust (c : Controller) (d : Controller) : Controller :=
  match c.held with
  | some (failure, _) => c.decide (.failed failure)
  | none => d.restart

/-- Looks at the result slot. -/
def pollResult (v : View) (c : Controller) : Move :=
  if c.isResultOpen then
    match v.slot with
    | .full t => { controller := c.decide (.connected t) }
    | .closed => { controller := c.exhaust { c with isResultOpen := false } }
    | _ => c.pass .notices
  else c.pass .notices

/-- Deals with a notice. -/
def hear (v : View) (c : Controller) (notice : Notice) : Controller :=
  match notice.failure? with
  | none => if notice.activity = .router then c.exhaust c else c.restart
  | some failure =>
    match c.held with
    | some (held, _) => c.decide (.failed held)
    | none =>
      if notice.activity = .processWait && c.isResultOpen then
        { c with held := some (failure, v.now + c.grace) }.restart
      else c.decide (.failed failure)

/-- Looks at the notices. -/
def pollNotices (v : View) (c : Controller) : Move :=
  if c.isNoticesOpen then
    match v.notices with
    | notice :: _ => { controller := c.hear v notice, act := .take }
    | [] =>
      if v.hasSenders then c.pass .drain
      else { controller := c.exhaust { c with isNoticesOpen := false } }
  else c.pass .drain

/-- Looks at the timer, which only runs while a failure is held back. -/
def pollDrain (v : View) (c : Controller) : Move :=
  match c.held with
  | some (failure, deadline) =>
    if deadline ≤ v.now then { controller := c.decide (.failed failure) } else c.pass .cancel
  | none => c.pass .cancel

/-- Looks at the caller's wish to cancel; if there is none, nothing has been found. -/
def pollCancel (v : View) (c : Controller) : Move :=
  if v.isCancelled then { controller := c.decide (.failed .cancelled) }
  else { controller := { c with phase := .parked } }

/-- Looks at a source. -/
def poll (v : View) (c : Controller) : Branch → Move
  | .result => c.pollResult v
  | .notices => c.pollNotices v
  | .drain => c.pollDrain v
  | .cancel => c.pollCancel v

/-- Whether one of the sources has something. -/
def isWoken (v : View) (c : Controller) : Bool :=
  (c.isResultOpen && (v.slot matches .full _ | .closed))
    || (c.isNoticesOpen && (!v.notices.isEmpty || !v.hasSenders))
    || (c.held.any fun held => held.2 ≤ v.now)
    || v.isCancelled

/-- One step of the controller; none if it has to wait or is done. -/
def step (v : View) (c : Controller) : Option Move :=
  match c.phase with
  | .polling branch => some (c.poll v branch)
  | .parked => if c.isWoken v then some { controller := c.restart } else none
  | .stopping outcome => some { controller := { c with phase := .leaving outcome }, act := .stop }
  | .leaving outcome => some { controller := { c with phase := .joining outcome }, act := .leave }
  | .joining outcome =>
    if v.areTasksDone then some { controller := { c with phase := .clearing outcome } } else none
  | .clearing outcome => some { controller := { c with phase := .returned outcome }, act := .clear }
  | .returned _ => none
  | .abandoned => none

/-- The time at which the held failure is no longer held back, while the controller waits for it. -/
def deadline? (c : Controller) : Option Nat :=
  match c.phase with
  | .parked => c.held.map (·.2)
  | _ => none

/-- The outcome once the session is over. -/
def outcome? (c : Controller) : Option Outcome :=
  match c.phase with
  | .returned outcome => some outcome
  | _ => none

end Controller
end Traversal
