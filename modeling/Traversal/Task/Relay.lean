import Traversal.Failure
import Traversal.Stream.Sink
import Traversal.Stream.Source

/-!
# The relay

The relay copies the engine's diagnostics to whoever wants them, or reads and drops them if nobody does.
It reads as long as it has room, writes all that it holds, and so on; when the sink makes it wait it reads
once more.  A fault of the engine's side ends the copying where it is met, also if there is something left
to write.  Whenever there is nothing more to copy for now, and at the end of the stream, what was written
is flushed.  Interrupted reads and writes are tried again.

A relay looks for a shutdown whenever it has to wait.  An engine that always has something to say does not
keep it from that: there is a bound on the reads that it makes without looking (`Relay.allowance`), after which
a read waits even if there are bytes.  Only the reads since the shutdown are counted.  Before it there is
nothing to be found, and a read that waits although there are bytes is no different from one that they have
not reached yet.
-/

namespace Traversal

/-- What a relay holds until it is done. -/
inductive Relay.Hold
  | sink
  | notices
  | stderr
deriving DecidableEq, Repr

/-- What a relay is about to do. -/
inductive Relay.Phase
  /-- To look for a shutdown, and to wait for bytes to read. -/
  | idle
  /-- To look for a shutdown, and to wait for a change at the far side of the sink, or else for bytes to
  read if it listens for them. -/
  | blocked (isListening : Bool)
  | reading
  | writing
  /-- To read once while the sink has no room. -/
  | toppingUp
  /-- To flush once more, whatever comes of it, and to report unless the session is being shut down. -/
  | flushing (isShutdown : Bool)
  | posting (failure? : Option Failure)
  | releasing (hold : Relay.Hold)
  | done
deriving DecidableEq, Repr

/-- What others see of a step, beside the bytes in the sink. -/
inductive Relay.Act
  | inner
  | post (failure? : Option Failure)
  | release (hold : Relay.Hold)
deriving DecidableEq, Repr

/-- The most reads that a relay makes without looking for a shutdown: what the runtime grants a task at a
time. -/
def Relay.allowance : Nat := 128

/-- A task that copies the engine's diagnostics. -/
structure Relay where
  /-- What has been read and not been written yet. -/
  buffer : Bytes := []
  /-- How many bytes have been read since there was nothing to write. -/
  batch : Nat := 0
  /-- The end of the diagnostics has been read. -/
  isEnded : Bool := false
  /-- Something has been written since the last flush. -/
  isDirty : Bool := false
  /-- How many reads are left before it looks for a shutdown, once the session is being shut down. -/
  budget : Nat := Relay.allowance
  phase : Relay.Phase := .idle
deriving DecidableEq, Repr

namespace Relay

/-- A relay after a step, the streams at both its ends, and what others see. -/
structure Move where
  relay : Relay
  stderr : Source
  sink : Sink
  act : Act := .inner

/-- Whether the task has ended and let go of everything. -/
def isDone (r : Relay) : Bool :=
  r.phase = .done

/-- The most bytes that are read before all of them have been written. -/
def capacity : Nat := 8192

/-- How much can be read now.  What has been written gives room again when nothing is left to write. -/
def room (r : Relay) : Nat :=
  if r.isEnded then 0 else if r.buffer.isEmpty then capacity else capacity - r.batch

/-- Takes in what has been read. -/
def take (r : Relay) (bytes : Bytes) : Relay :=
  { r with
    buffer := r.buffer ++ bytes
    batch := (if r.buffer.isEmpty then 0 else r.batch) + bytes.length }

/-- Ends the copying with a fault. -/
def fail (r : Relay) (fault : IoFault) : Relay :=
  { r with phase := .posting (some (.relay fault)) }

/-- A relay that has made one more read. -/
def spend (isShutdown : Bool) (r : Relay) : Relay :=
  { r with budget := if isShutdown then r.budget - 1 else r.budget }

/-- Reads once and goes on as given, in one way if something has been read and in another if nothing has
arrived, or if it is time to look for a shutdown. -/
def read (isShutdown : Bool) (r : Relay) (s : Source) (k : Sink) (next : Phase) (otherwise : Move) :
    Move :=
  if isShutdown && r.budget = 0 then otherwise
  else
    match s.readUpTo r.room with
    | (.chunk bytes, s) =>
      { relay := { (r.spend isShutdown).take bytes with phase := next }, stderr := s, sink := k }
    | (.eof, s) => { relay := { r with isEnded := true, phase := next }, stderr := s, sink := k }
    | (.fault fault, s) =>
      { relay := if fault.isInterruption then r.spend isShutdown else r.fail fault
        stderr := s
        sink := k }
    | (.pending, _) => otherwise

/-- Writes some of what has been read. -/
def write (r : Relay) (s : Source) (k : Sink) : Move :=
  match k.offer r.buffer with
  | (.taken n, k) =>
    { relay := { r with buffer := r.buffer.drop n, isDirty := true }, stderr := s, sink := k }
  | (.nothing, k) =>
    { relay := r.fail (.described "write zero byte into writer"), stderr := s, sink := k }
  | (.fault fault, k) =>
    -- What still interrupts the offer interrupts every write.
    { relay := if fault.isInterruption then r else r.fail fault, stderr := s, sink := k }
  | (.pending, k) =>
    { relay := { r with phase := if r.room = 0 then .blocked false else .toppingUp }
      stderr := s
      sink := k }

/-- Waits for more, after a flush if something has been written. -/
def rest (r : Relay) (s : Source) (k : Sink) : Move :=
  if r.isDirty then
    match k.flush with
    | (none, k) =>
      { relay := { r with isDirty := false, phase := .idle }, stderr := s, sink := k }
    | (some fault, k) => { relay := r.fail fault, stderr := s, sink := k }
  else { relay := { r with phase := .idle }, stderr := s, sink := k }

/-- Ends the copying after a flush. -/
def conclude (r : Relay) (s : Source) (k : Sink) : Move :=
  match k.flush with
  | (none, k) => { relay := { r with isDirty := false, phase := .flushing false }, stderr := s, sink := k }
  | (some fault, k) => { relay := r.fail fault, stderr := s, sink := k }

/-- Whether something has happened that a waiting relay waits for. -/
def isWoken (r : Relay) (s : Source) (k : Sink) : Bool :=
  match r.phase with
  | .idle => s.isReady
  | .blocked isListening => k.isStirred || isListening && s.isReady
  | _ => false

/-- Waits until it is woken, or until the session is shut down. -/
def wait (isShutdown : Bool) (r : Relay) (s : Source) (k : Sink) : Option Move :=
  if isShutdown then some { relay := { r with phase := .flushing true }, stderr := s, sink := k }
  else if r.isWoken s k then
    some { relay := { r with phase := .reading }, stderr := s, sink := k.calm }
  else none

/-- The phase after letting go of something. -/
def Hold.next : Hold → Phase
  | sink => .releasing .notices
  | notices => .releasing .stderr
  | stderr => .done

/-- One step of the task; none if it has to wait or is done. -/
def step (isShutdown : Bool) (r : Relay) (s : Source) (k : Sink) : Option Move :=
  let goTo (phase : Phase) : Move := { relay := { r with phase }, stderr := s, sink := k }
  match r.phase with
  | .idle => r.wait isShutdown s k
  | .blocked _ => r.wait isShutdown s k
  | .reading =>
    if r.room = 0 then some (goTo .writing)
    else some (r.read isShutdown s k .writing (if r.buffer.isEmpty then r.rest s k else goTo .writing))
  | .writing =>
    if !r.buffer.isEmpty then some (r.write s k)
    else if r.isEnded then some (r.conclude s k)
    else some (goTo .reading)
  | .toppingUp => some (r.read isShutdown s k (.blocked false) (goTo (.blocked true)))
  | .flushing isShutdown =>
    let phase : Phase := if isShutdown then .releasing .sink else .posting none
    some { relay := { r with phase }, stderr := s, sink := k.flush.2 }
  | .posting failure? =>
    some
      { relay := { r with phase := .releasing .sink }, stderr := s, sink := k, act := .post failure? }
  | .releasing hold =>
    some { relay := { r with phase := hold.next }, stderr := s, sink := k, act := .release hold }
  | .done => none

/-- A bound on the number of steps that a relay can take before it has to wait or is done, unless it is told
to stop. -/
def work (r : Relay) (s : Source) (k : Sink) : Nat :=
  let copying (turn : Nat) : Nat :=
    6 + turn + (if k.isStirred then 4 else 0) + (if r.isEnded then 0 else 8) + 4 * r.buffer.length
      + 8 * s.size
  match r.phase with
  | .done => 0
  | .releasing .stderr => 1
  | .releasing .notices => 2
  | .releasing .sink => 3
  | .posting _ => 4
  | .flushing _ => 5
  | .idle => copying (if s.isReady then 4 else 0)
  | .blocked isListening => copying (if isListening && s.isReady then 4 else 0)
  | .toppingUp => copying 1
  | .reading => copying 3
  | .writing => copying (if r.buffer.isEmpty && !r.isEnded then 4 else 2)

/-- A bound on the number of steps that a relay can take until it is done, once it has been told to stop.
Each read that is left to it may fill the buffer, and what is in there may be written byte by byte. -/
def toil (r : Relay) : Nat :=
  let copying (turn : Nat) : Nat :=
    8 + turn + 3 * r.buffer.length + (3 * capacity + 2) * r.budget
  match r.phase with
  | .done => 0
  | .releasing .stderr => 1
  | .releasing .notices => 2
  | .releasing .sink => 3
  | .posting _ => 4
  | .flushing _ => 5
  | .idle => 6
  | .blocked _ => 6
  | .toppingUp => 7 + r.budget
  | .reading => copying 1
  | .writing => copying (if r.buffer.isEmpty && !r.isEnded then 2 else 0)

end Relay
end Traversal
