import Traversal.Session.Notice
import Traversal.Session.Slot
import Traversal.Task.Router

/-!
# A router by itself

A router among surroundings that follow a script: what arrives on the engine's standard output, the
shutdown, and the departure of those who wait for results and notices.  After each group of events the
router runs until it can do nothing more.
-/

namespace Traversal

/-- A router with its surroundings. -/
structure RouterRig where
  router : Router
  stdout : Source := {}
  isShutdown : Bool := false
  slot : Slot := .vacant
  /-- Whether somebody listens to notices. -/
  hasListener : Bool := true
  /-- The messages passed on since the last group of events, latest first. -/
  sentRev : List Bytes := []
  /-- The notices since the last group of events, latest first. -/
  noticesRev : List Notice := []
  /-- The router has let go of the stream. -/
  isStdoutClosed : Bool := false

namespace RouterRig

/-- Something that happens around a router. -/
inductive Event
  | arrival (arrival : Arrival)
  | shutdown
  | dropNotices
  | dropResult
deriving DecidableEq, Repr

/-- A rig whose router refuses records beyond a limit. -/
def start (limit : Nat) : RouterRig :=
  { router := Router.start limit }

/-- Applies an event. -/
def apply (rig : RouterRig) : Event → RouterRig
  | .arrival a => if rig.isStdoutClosed then rig else { rig with stdout := rig.stdout.arrive a }
  | .shutdown => { rig with isShutdown := true }
  | .dropNotices => { rig with hasListener := false }
  | .dropResult => { rig with slot := rig.slot.abandon }

/-- Lets the surroundings take part in a step. -/
def witness (rig : RouterRig) : Router.Act → RouterRig
  | .inner => rig
  | .forward message => { rig with sentRev := message :: rig.sentRev }
  | .deliver t => { rig with slot := rig.slot.deliver t }
  | .post failure? =>
    if rig.hasListener then { rig with noticesRev := ⟨.router, failure?⟩ :: rig.noticesRev } else rig
  | .release .stdout => { rig with isStdoutClosed := true }
  | .release .notices => rig
  | .release .slot => { rig with slot := rig.slot.release }

/-- One step of the router. -/
def step (rig : RouterRig) : Option RouterRig :=
  (rig.router.step rig.isShutdown rig.stdout).map fun move =>
    { rig with router := move.router, stdout := move.stdout }.witness move.act

/-- At most so many steps of the router. -/
def runFor : Nat → RouterRig → RouterRig
  | 0, rig => rig
  | n + 1, rig =>
    match rig.step with
    | none => rig
    | some rig => runFor n rig

/-- Lets the router run until it can do nothing more. -/
def run (rig : RouterRig) : RouterRig :=
  runFor (rig.router.work rig.stdout) rig

/-- Applies a group of events and lets the router run. -/
def settle (rig : RouterRig) (events : List Event) : RouterRig :=
  (events.foldl apply { rig with sentRev := [], noticesRev := [] }).run

end RouterRig
end Traversal
