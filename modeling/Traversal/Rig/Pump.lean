import Traversal.Task.Pump

/-!
# A pump by itself

A pump among surroundings that follow a script: the messages submitted, how the engine's standard input
behaves, the shutdown, and the departure of the submitters.  A message is submitted without waiting for
room in the queue; whoever submits it learns at some point what became of it, unless nobody waits.
-/

namespace Traversal

/-- What becomes of a submitted message. -/
inductive Reply
  /-- The pump has answered. -/
  | answered (failure? : Option Failure)
  /-- The pump is gone and has not answered. -/
  | dropped
  | queueFull
  | queueClosed
  /-- Nobody can submit messages any more. -/
  | noSender
deriving DecidableEq, Repr

/-- A pump with its surroundings. -/
structure PumpRig where
  pump : Pump := {}
  stdin : Sink := {}
  capacity : Nat
  queue : List Request := []
  hasSenders : Bool := true
  isShutdown : Bool := false
  /-- The number of the next message. -/
  nextTicket : Nat := 0
  /-- The messages whose reply nobody waits for. -/
  forgotten : List Nat := []
  /-- The replies since the last group of events. -/
  replies : List (Nat × Reply) := []
  isStdinClosed : Bool := false
  isQueueClosed : Bool := false

namespace PumpRig

/-- Something that happens around a pump. -/
inductive Event
  | submit (payload : Bytes) (isForgotten : Bool)
  | sink (event : SinkEvent)
  | dropSender
  | shutdown
deriving DecidableEq, Repr

/-- A reply reaches whoever waits for it. -/
def reply (rig : PumpRig) (ticket : Nat) (r : Reply) : PumpRig :=
  if rig.forgotten.contains ticket then rig
  else { rig with replies := rig.replies ++ [(ticket, r)] }

/-- Submits a message. -/
def submit (rig : PumpRig) (payload : Bytes) (isForgotten : Bool) : PumpRig :=
  let ticket := rig.nextTicket
  let rig := { rig with nextTicket := ticket + 1 }
  if !rig.hasSenders then rig.reply ticket .noSender
  else if rig.isQueueClosed then rig.reply ticket .queueClosed
  else if rig.capacity ≤ rig.queue.length then rig.reply ticket .queueFull
  else
    { rig with
      queue := rig.queue ++ [⟨ticket, payload⟩]
      forgotten := if isForgotten then ticket :: rig.forgotten else rig.forgotten }

/-- Applies an event. -/
def apply (rig : PumpRig) : Event → PumpRig
  | .submit payload isForgotten => rig.submit payload isForgotten
  | .sink e => { rig with stdin := rig.stdin.apply e }
  | .dropSender => { rig with hasSenders := false }
  | .shutdown => { rig with isShutdown := true }

/-- The queue goes away with all messages in it. -/
def closeQueue (rig : PumpRig) : PumpRig :=
  rig.queue.foldl (fun rig request => rig.reply request.ticket .dropped)
    { rig with queue := [], isQueueClosed := true }

/-- Lets the surroundings take part in a step. -/
def witness (rig : PumpRig) : Pump.Act → PumpRig
  | .inner => rig
  | .take => { rig with queue := rig.queue.tail }
  | .answer ticket failure? => rig.reply ticket (.answered failure?)
  | .release .stdin => { rig with isStdinClosed := true }
  | .release .queue => rig.closeQueue

/-- One step of the pump. -/
def step (rig : PumpRig) : Option PumpRig :=
  (rig.pump.step rig.isShutdown rig.queue.head? rig.hasSenders rig.stdin).map fun move =>
    { rig with pump := move.pump, stdin := move.stdin }.witness move.act

/-- At most so many steps of the pump. -/
def runFor : Nat → PumpRig → PumpRig
  | 0, rig => rig
  | n + 1, rig =>
    match rig.step with
    | none => rig
    | some rig => runFor n rig

/-- Lets the pump run until it can do nothing more. -/
def run (rig : PumpRig) : PumpRig :=
  runFor (rig.pump.work rig.queue rig.stdin) rig

/-- Applies a group of events and lets the pump run. -/
def settle (rig : PumpRig) (events : List Event) : PumpRig :=
  (events.foldl apply { rig with replies := [] }).run

end PumpRig
end Traversal
