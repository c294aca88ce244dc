import Traversal.Session.Notice
import Traversal.Task.Watcher

/-!
# A watcher by itself

A watcher among surroundings that follow a script: the end of the engine, the shutdown, the passing of time,
and the departure of whoever listens to notices.
-/

namespace Traversal

/-- A watcher with its surroundings. -/
structure WatcherRig where
  watcher : Watcher
  child : Engine.Child := .running
  now : Nat := 0
  isShutdown : Bool := false
  hasListener : Bool := true
  /-- The notices, latest first. -/
  noticesRev : List Notice := []
  /-- The watcher has told the engine to die. -/
  isKilled : Bool := false
deriving DecidableEq, Repr

namespace WatcherRig

/-- Something that happens around a watcher. -/
inductive Event
  | exit (status : Engine.WaitStatus)
  | shutdown
  | elapse (duration : Nat)
  | dropNotices
deriving DecidableEq, Repr

/-- Applies an event. -/
def apply (rig : WatcherRig) : Event → WatcherRig
  | .exit status => { rig with child := rig.child.finish status }
  | .shutdown => { rig with isShutdown := true }
  | .elapse duration => { rig with now := rig.now + duration }
  | .dropNotices => { rig with hasListener := false }

/-- Lets the surroundings take part in a step. -/
def witness (rig : WatcherRig) : Watcher.Act → WatcherRig
  | .inner => rig
  | .kill => { rig with isKilled := true }
  | .post failure? =>
    if rig.hasListener then { rig with noticesRev := ⟨.processWait, failure?⟩ :: rig.noticesRev }
    else rig
  | .release _ => rig

/-- One step of the watcher, which may prefer the shutdown to the end of the engine. -/
def step (rig : WatcherRig) (prefersShutdown : Bool) : Option WatcherRig :=
  (rig.watcher.step rig.isShutdown prefersShutdown rig.now rig.child).map fun move =>
    { rig with watcher := move.watcher, child := move.child }.witness move.act

/-- At most so many steps of the watcher. -/
def runFor : Nat → WatcherRig → WatcherRig
  | 0, rig => rig
  | n + 1, rig =>
    match rig.step false with
    | none => rig
    | some rig => runFor n rig

/-- More steps than a watcher takes. -/
def patience : Nat := 16

/-- Applies an event and lets the watcher run until it can do nothing more. -/
def settle (rig : WatcherRig) (event : Event) : WatcherRig :=
  runFor patience (rig.apply event)

end WatcherRig
end Traversal
