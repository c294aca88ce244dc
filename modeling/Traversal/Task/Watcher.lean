import Traversal.Engine.Child
import Traversal.Failure

/-!
# The watcher

The watcher waits for the engine to end and reports how.  When the session is shut down first, the engine
has some time to end by itself; after that it is killed.  In any case the watcher goes on until it has
collected the engine's status, so that no engine outlives its session.

If the engine has ended and the session is being shut down at the same moment, the watcher may turn to
either; the report is the same.
-/

namespace Traversal

/-- What a watcher holds until it is done. -/
inductive Watcher.Hold
  | notices
  | child
deriving DecidableEq, Repr

/-- What a watcher is about to do. -/
inductive Watcher.Phase
  /-- To wait for the end of the engine or for a shutdown. -/
  | watching
  /-- To wait for the end of the engine until a deadline. -/
  | graced (deadline : Nat)
  | killing
  /-- To wait for the end of an engine that has been killed. -/
  | mourning
  | posting (failure? : Option Failure)
  | releasing (hold : Watcher.Hold)
  | done
deriving DecidableEq, Repr

/-- What others see of a step, beside the status being collected. -/
inductive Watcher.Act
  | inner
  | kill
  | post (failure? : Option Failure)
  | release (hold : Watcher.Hold)
deriving DecidableEq, Repr

/-- A task that waits for the engine to end. -/
structure Watcher where
  /-- The time that an engine has to end by itself. -/
  grace : Nat
  phase : Watcher.Phase := .watching
deriving DecidableEq, Repr

namespace Watcher

open Engine

/-- A watcher after a step, the engine, and what others see. -/
structure Move where
  watcher : Watcher
  child : Child
  act : Act := .inner
deriving DecidableEq, Repr

/-- Whether the task has ended and let go of everything. -/
def isDone (w : Watcher) : Bool :=
  w.phase = .done

/-- Collects the status of an engine that has ended. -/
def collect (w : Watcher) (c : Child) (status : WaitStatus) : Move :=
  { watcher := { w with phase := .posting (exitFailure? (.ok status)) }, child := c.reap }

/-- Turns to the shutdown. -/
def yield (w : Watcher) (now : Nat) (c : Child) : Move :=
  { watcher := { w with phase := .graced (now + w.grace) }, child := c }

/-- The phase after letting go of something. -/
def Hold.next : Hold → Phase
  | notices => .releasing .child
  | child => .done

/-- One step of the task; none if it has to wait or is done.  If the engine has ended and the session is
being shut down, the task turns to whichever it prefers. -/
def step (isShutdown prefersShutdown : Bool) (now : Nat) (w : Watcher) (c : Child) : Option Move :=
  match w.phase with
  | .watching =>
    match c.status? with
    | some status =>
      if isShutdown && prefersShutdown then some (w.yield now c) else some (w.collect c status)
    | none => if isShutdown then some (w.yield now c) else none
  | .graced deadline =>
    match c.status? with
    | some status => some (w.collect c status)
    | none =>
      if deadline ≤ now then some { watcher := { w with phase := .killing }, child := c } else none
  | .killing => some { watcher := { w with phase := .mourning }, child := c, act := .kill }
  | .mourning => c.status?.map (w.collect c)
  | .posting failure? =>
    some { watcher := { w with phase := .releasing .notices }, child := c, act := .post failure? }
  | .releasing hold =>
    some { watcher := { w with phase := hold.next }, child := c, act := .release hold }
  | .done => none

/-- The time at which a watcher stops waiting for the engine to end by itself. -/
def deadline? (w : Watcher) : Option Nat :=
  match w.phase with
  | .graced deadline => some deadline
  | _ => none

end Watcher
end Traversal
