import Traversal.Task.Pump

/-!
# The way of messages into a session

Whoever has a handle can submit messages.  A bounded queue holds them until the pump takes them; once it
is full, further messages wait for room in the order in which they were submitted.  When the queue goes
away, every message in it and every one that waits is given up, and no later one is accepted.  So each
message is resolved at some point: by the pump, or because the session is over.
-/

namespace Traversal

/-- The messages that have been submitted to a session, and what became of them. -/
structure Mailbox where
  /-- The name of the session, for the failures that tell of it. -/
  session : String
  capacity : Nat
  queue : List Request := []
  /-- The messages that wait for room. -/
  waiting : List Request := []
  isClosed : Bool := false
  /-- How many there are who can submit messages. -/
  handles : Nat := 1
  /-- The number of the next message. -/
  nextTicket : Nat := 0
  /-- What became of the messages that have been resolved, latest first; nothing if they were written. -/
  resolved : List (Nat × Option Failure) := []
deriving DecidableEq, Repr

namespace Mailbox

/-- What became of a message, if that is known. -/
def outcome? (m : Mailbox) (ticket : Nat) : Option (Option Failure) :=
  m.resolved.lookup ticket

/-- Whoever submitted a message learns what became of it. -/
def resolve (m : Mailbox) (ticket : Nat) (failure? : Option Failure) : Mailbox :=
  { m with resolved := (ticket, failure?) :: m.resolved }

/-- Gives messages up. -/
def refuse (m : Mailbox) (requests : List Request) (failure : Failure) : Mailbox :=
  requests.foldl (fun m request => m.resolve request.ticket (some failure)) m

/-- Submits a message. -/
def submit (m : Mailbox) (payload : Bytes) : Mailbox :=
  let request : Request := ⟨m.nextTicket, payload⟩
  let m := { m with nextTicket := m.nextTicket + 1 }
  if m.isClosed then m.refuse [request] (.notAccepting m.session)
  else if m.queue.length < m.capacity then { m with queue := m.queue ++ [request] }
  else { m with waiting := m.waiting ++ [request] }

/-- The first message leaves the queue, and the first one that waits enters it. -/
def take (m : Mailbox) : Mailbox :=
  { m with queue := m.queue.tail ++ m.waiting.take 1, waiting := m.waiting.drop 1 }

/-- The queue goes away. -/
def close (m : Mailbox) : Mailbox :=
  ({ m with queue := [], waiting := [], isClosed := true }.refuse m.waiting
    (.notAccepting m.session)).refuse m.queue (.endedUnwritten m.session)

/-- One more can submit messages. -/
def share (m : Mailbox) : Mailbox :=
  { m with handles := m.handles + 1 }

/-- One less can submit messages. -/
def part (m : Mailbox) : Mailbox :=
  { m with handles := m.handles - 1 }

end Mailbox
end Traversal
