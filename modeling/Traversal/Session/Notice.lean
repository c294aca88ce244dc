import Traversal.Failure

/-!
# Notices

The tasks of a session that can end it report how they ended, each at most once.
-/

namespace Traversal

/-- The tasks that report. -/
inductive Activity
  /-- Reads the engine's standard output. -/
  | router
  /-- Copies the engine's diagnostics. -/
  | relay
  /-- Waits for the engine to end. -/
  | processWait
deriving DecidableEq, Repr

namespace Activity

/-- All activities. -/
def all : List Activity :=
  [router, relay, processWait]

/-- The name of an activity. -/
def name : Activity → String
  | router => "router"
  | relay => "relay"
  | processWait => "process-wait"

end Activity

/-- How a task ended: well, or with a failure. -/
structure Notice where
  activity : Activity
  failure? : Option Failure
deriving DecidableEq, Repr

end Traversal
