import Traversal.Session.Notice
import Traversal.Task.Relay

/-!
# A relay by itself

A relay among surroundings that follow a script: what arrives from the engine, how the sink behaves, the
shutdown, and the departure of whoever listens to notices.
-/

namespace Traversal

/-- A relay with its surroundings. -/
structure RelayRig where
  relay : Relay := {}
  stderr : Source := {}
  sink : Sink := {}
  /-- Whether anybody wants the diagnostics; if nobody does, the sink stands for a bottomless one. -/
  hasSink : Bool := true
  isShutdown : Bool := false
  hasListener : Bool := true
  /-- The notices since the last group of events, latest first. -/
  noticesRev : List Notice := []
  isStderrClosed : Bool := false

namespace RelayRig

/-- Something that happens around a relay. -/
inductive Event
  | arrival (arrival : Arrival)
  | sink (event : SinkEvent)
  | shutdown
  | dropNotices
deriving DecidableEq, Repr

/-- Applies an event. -/
def apply (rig : RelayRig) : Event → RelayRig
  | .arrival a => if rig.isStderrClosed then rig else { rig with stderr := rig.stderr.arrive a }
  | .sink e => if rig.hasSink then { rig with sink := rig.sink.apply e } else rig
  | .shutdown => { rig with isShutdown := true }
  | .dropNotices => { rig with hasListener := false }

/-- Lets the surroundings take part in a step. -/
def witness (rig : RelayRig) : Relay.Act → RelayRig
  | .inner => rig
  | .post failure? =>
    if rig.hasListener then { rig with noticesRev := ⟨.relay, failure?⟩ :: rig.noticesRev } else rig
  | .release .stderr => { rig with isStderrClosed := true }
  | .release _ => rig

/-- One step of the relay. -/
def step (rig : RelayRig) : Option RelayRig :=
  (rig.relay.step rig.isShutdown rig.stderr rig.sink).map fun move =>
    { rig with relay := move.relay, stderr := move.stderr, sink := move.sink }.witness move.act

/-- A bound on the number of steps that the relay can take before it has to wait or is done. -/
def work (rig : RelayRig) : Nat :=
  if rig.isShutdown then rig.relay.toil else rig.relay.work rig.stderr rig.sink

/-- At most so many steps of the relay. -/
def runFor : Nat → RelayRig → RelayRig
  | 0, rig => rig
  | n + 1, rig =>
    match rig.step with
    | none => rig
    | some rig => runFor n rig

/-- Lets the relay run until it can do nothing more. -/
def run (rig : RelayRig) : RelayRig :=
  runFor rig.work rig

/-- Applies a group of events and lets the relay run. -/
def settle (rig : RelayRig) (events : List Event) : RelayRig :=
  (events.foldl apply { rig with noticesRev := [] }).run

end RelayRig
end Traversal
