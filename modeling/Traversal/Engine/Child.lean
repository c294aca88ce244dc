import Traversal.Engine.Exit

/-!
# The engine as a process

How far the life of the engine has come.  An engine that has ended keeps its status until somebody
collects it.
-/

namespace Traversal.Engine

/-- How far the life of the engine has come. -/
inductive Child
  | running
  /-- It has ended, and nobody has collected its status. -/
  | ended (status : WaitStatus)
  /-- Its status has been collected. -/
  | reaped (status : WaitStatus)
deriving DecidableEq, Repr

namespace Child

/-- The status of an engine that has ended. -/
def status? : Child → Option WaitStatus
  | running => none
  | ended status => some status
  | reaped status => some status

/-- The status is collected if there is one. -/
def reap : Child → Child
  | running => running
  | ended status => reaped status
  | reaped status => reaped status

/-- The engine ends; only a running engine can. -/
def finish (c : Child) (status : WaitStatus) : Child :=
  if c = running then ended status else c

end Child
end Traversal.Engine
