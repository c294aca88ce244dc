import Traversal.FiveTuple

/-!
# The result slot

The router delivers a negotiated path through a slot that holds at most one.  Either side can go away:
the router with or without having delivered, the receiver before or after.
-/

namespace Traversal

/-- What is known about the result of a session. -/
inductive Slot
  /-- Nothing has been delivered yet. -/
  | vacant
  | full (t : FiveTuple)
  /-- The router is gone and has delivered nothing. -/
  | closed
  /-- The receiver went away first. -/
  | abandoned
deriving DecidableEq, Repr

namespace Slot

/-- A path is delivered; it is lost if nobody receives. -/
def deliver (slot : Slot) (t : FiveTuple) : Slot :=
  if slot = vacant then full t else slot

/-- The router goes away. -/
def release (slot : Slot) : Slot :=
  if slot = vacant then closed else slot

/-- The receiver goes away. -/
def abandon (slot : Slot) : Slot :=
  if slot = vacant then abandoned else slot

end Slot
end Traversal
