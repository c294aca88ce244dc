import Traversal.Record.Codec
import Traversal.Record.Content
import Traversal.Stream.Source

/-!
# The router

The router reads the engine's standard output record by record.  Signaling messages are passed on as
they come.  The first marked record ends the task: a negotiated path goes into the result slot, anything
else is reported as a failure.  The end of the stream and faults are reported as well.

The task moves in small steps, and everything that others can see happens in a step of its own.  Before
it turns to the stream it looks whether the session is being shut down; then it stops without a word.
-/

namespace Traversal

/-- What a router holds until it is done. -/
inductive Router.Hold
  | stdout
  /-- The way to report how it ended. -/
  | notices
  /-- The way to deliver a result. -/
  | slot
deriving DecidableEq, Repr

/-- What a router is about to do. -/
inductive Router.Phase
  /-- To look for a shutdown, and to wait for bytes if there is nothing to search. -/
  | waiting
  /-- To take the next record from the stream. -/
  | taking
  | posting (failure? : Option Failure)
  /-- To let go of one thing after another. -/
  | releasing (hold : Router.Hold)
  | done
deriving DecidableEq, Repr

/-- What others see of a step. -/
inductive Router.Act
  /-- Nothing. -/
  | inner
  /-- A signaling message is passed on. -/
  | forward (message : Bytes)
  /-- The negotiated path is put into the result slot. -/
  | deliver (t : FiveTuple)
  /-- The end of the task is reported. -/
  | post (failure? : Option Failure)
  | release (hold : Router.Hold)
deriving DecidableEq, Repr

/-- A task that reads the engine's standard output. -/
structure Router where
  decoder : Record.Decoder
  /-- The buffer has not been searched since bytes, or the end, arrived. -/
  isReadable : Bool := false
  sawEnd : Bool := false
  phase : Router.Phase := .waiting
deriving DecidableEq, Repr

namespace Router

/-- A router that refuses records beyond a limit. -/
def start (limit : Nat) : Router :=
  { decoder := { limit } }

/-- A router after a step, the stream it reads, and what others see. -/
structure Move where
  router : Router
  stdout : Source
  act : Act := .inner
deriving DecidableEq, Repr

/-- Whether the task has ended and let go of everything. -/
def isDone (r : Router) : Bool :=
  r.phase = .done

/-- Deals with a record. -/
def route (r : Router) (record : Bytes) (s : Source) : Move :=
  match Record.classify record with
  | .ok (.signal message) => { router := { r with phase := .waiting }, stdout := s, act := .forward message }
  | .ok (.result t) =>
    { router := { r with phase := .releasing .stdout }, stdout := s, act := .deliver t }
  | .error failure => { router := { r with phase := .posting (some failure) }, stdout := s }

/-- Searches the buffer.  When the end of the stream has been seen, finding no record is the end of the
task. -/
def search (r : Router) (s : Source) : Move :=
  match if r.sawEnd then r.decoder.finish else r.decoder.next with
  | (.record record, decoder) => { r with decoder }.route record s
  | (.overlong, decoder) =>
    { router := { r with decoder, phase := .posting (some (.lineTooLong decoder.limit)) }, stdout := s }
  | (.nothing, decoder) =>
    let phase : Phase := if r.sawEnd then .posting none else .taking
    { router := { r with decoder, isReadable := false, phase }, stdout := s }

/-- Reads from the stream. -/
def read (r : Router) (s : Source) : Move :=
  match s.read with
  | (.chunk bytes, s) =>
    { router := { r with decoder := r.decoder.feed bytes, isReadable := true }, stdout := s }
  | (.fault fault, s) =>
    { router := { r with phase := .posting (some (.stream fault)) }, stdout := s }
  | (.eof, s) =>
    if r.sawEnd then { router := { r with phase := .posting none }, stdout := s }
    else { router := { r with isReadable := true, sawEnd := true }, stdout := s }
  | (.pending, s) => { router := { r with phase := .waiting }, stdout := s }

/-- The phase after letting go of something. -/
def Hold.next : Hold → Phase
  | stdout => .releasing .notices
  | notices => .releasing .slot
  | slot => .done

/-- One step of the task; none if it has to wait or is done. -/
def step (isShutdown : Bool) (r : Router) (s : Source) : Option Move :=
  match r.phase with
  | .waiting =>
    if isShutdown then some { router := { r with phase := .releasing .stdout }, stdout := s }
    else if r.isReadable || s.isReady then
      some { router := { r with phase := .taking }, stdout := s }
    else none
  | .taking => some (if r.isReadable then r.search s else r.read s)
  | .posting failure? =>
    some
      { router := { r with phase := .releasing .stdout }, stdout := s, act := .post failure? }
  | .releasing hold =>
    some { router := { r with phase := hold.next }, stdout := s, act := .release hold }
  | .done => none

/-- A bound on the number of steps that a router can take before it has to wait or is done. -/
def work (r : Router) (s : Source) : Nat :=
  match r.phase with
  | .done => 0
  | .releasing .slot => 1
  | .releasing .notices => 2
  | .releasing .stdout => 3
  | .posting _ => 4
  | phase =>
    let turn :=
      if phase = .taking then 1 else if r.isReadable || s.isReady then 2 else 0
    5 + turn + (if r.isReadable then 2 else 0) + (if r.sawEnd then 0 else 8)
      + 8 * (r.decoder.buffer.length + s.size)

end Router
end Traversal
