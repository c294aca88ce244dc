import Traversal.Failure
import Traversal.Record.Codec
import Traversal.Stream.Sink

/-!
# The pump

The pump takes messages from a queue and writes them to the engine's standard input, one at a time, each
as a record.  Whoever submitted a message learns what became of it; a failed write concerns nobody else
and does not end the session.

What could not be written stays in the buffer and goes out before the next message.  Only a buffer that
has grown beyond a bound is cleared before the next message is put into it, and if that fails the message
is given up.
-/

namespace Traversal

/-- A message on its way to the engine. -/
structure Request where
  ticket : Nat
  payload : Bytes
deriving DecidableEq, Repr

/-- How far the writing of a message has come. -/
inductive Pump.Stage
  /-- The message is not in the buffer yet, which may have to be cleared. -/
  | clearing
  | writing
deriving DecidableEq, Repr

/-- What a pump holds until it is done. -/
inductive Pump.Hold
  | stdin
  | queue
deriving DecidableEq, Repr

/-- What a pump is about to do. -/
inductive Pump.Phase
  /-- To look for a shutdown, and to wait for a message. -/
  | idle
  /-- To wait for a shutdown, because nobody can submit messages any more. -/
  | deaf
  /-- To look for a shutdown before it writes on, and to wait for room if it has to. -/
  | poised (request : Request) (stage : Pump.Stage) (needsRoom : Bool)
  | pushing (request : Request) (stage : Pump.Stage)
  /-- To tell what became of a message. -/
  | answering (request : Request) (failure? : Option Failure)
  | releasing (hold : Pump.Hold)
  | done
deriving DecidableEq, Repr

/-- What others see of a step, beside the bytes in the engine's standard input. -/
inductive Pump.Act
  | inner
  /-- The first message has been taken from the queue. -/
  | take
  | answer (ticket : Nat) (failure? : Option Failure)
  | release (hold : Pump.Hold)
deriving DecidableEq, Repr

/-- A task that writes messages to the engine's standard input. -/
structure Pump where
  buffer : Bytes := []
  phase : Pump.Phase := .idle
deriving DecidableEq, Repr

namespace Pump

/-- The length from which on a buffer is cleared before it takes another message. -/
def bound : Nat := 8192

/-- A pump after a step, the stream it writes to, and what others see. -/
structure Move where
  pump : Pump
  stdin : Sink
  act : Act := .inner

/-- Whether the task has ended and let go of everything. -/
def isDone (p : Pump) : Bool :=
  p.phase = .done

/-- Whether a buffer has to be cleared before it takes another message. -/
def isLong (buffer : Bytes) : Bool :=
  !(buffer.drop (bound - 1)).isEmpty

/-- Puts a message into the buffer. -/
def load (p : Pump) (request : Request) : Pump :=
  { buffer := p.buffer ++ Record.encode request.payload, phase := .pushing request .writing }

/-- Turns to the stream.  A buffer that is not long, or not long any more, takes the message at once. -/
def turn (p : Pump) (request : Request) (stage : Stage) : Pump :=
  if stage = .clearing && !isLong p.buffer then p.load request
  else { p with phase := .pushing request stage }

/-- Gives a message up. -/
def fail (p : Pump) (request : Request) (fault : IoFault) : Pump :=
  { p with phase := .answering request (some (.writeFailed fault)) }

/-- Goes on when the buffer has been written and flushed. -/
def advance (p : Pump) (request : Request) : Stage → Pump
  | .clearing => p.load request
  | .writing => { p with phase := .answering request none }

/-- Writes from the buffer, or flushes when it is empty. -/
def push (p : Pump) (request : Request) (stage : Stage) (k : Sink) : Move :=
  if p.buffer.isEmpty then
    match k.flush with
    | (none, k) => { pump := p.advance request stage, stdin := k }
    | (some fault, k) => { pump := p.fail request fault, stdin := k }
  else
    match k.write p.buffer with
    | (.taken n, k) => { pump := { p with buffer := p.buffer.drop n }, stdin := k }
    | (.nothing, k) =>
      { pump := p.fail request (.described "failed to write frame to transport"), stdin := k }
    | (.fault fault, k) => { pump := p.fail request fault, stdin := k }
    | (.pending, k) => { pump := { p with phase := .poised request stage true }, stdin := k }

/-- The phase after letting go of something. -/
def Hold.next : Hold → Phase
  | stdin => .releasing .queue
  | queue => .done

/-- One step of the task, given the first message in the queue and whether more can come; none if the
task has to wait or is done. -/
def step (isShutdown : Bool) (first? : Option Request) (hasSenders : Bool) (p : Pump) (k : Sink) :
    Option Move :=
  match p.phase with
  | .idle =>
    if isShutdown then some { pump := { p with phase := .releasing .stdin }, stdin := k }
    else
      match first? with
      | some request =>
        some { pump := { p with phase := .poised request .clearing false }, stdin := k, act := .take }
      | none =>
        if hasSenders then none else some { pump := { p with phase := .deaf }, stdin := k }
  | .deaf =>
    if isShutdown then some { pump := { p with phase := .releasing .stdin }, stdin := k } else none
  | .poised request stage needsRoom =>
    if isShutdown then
      some { pump := { p with phase := .answering request (some .writeCutOff) }, stdin := k }
    else if !needsRoom || k.isReady then
      some { pump := p.turn request stage, stdin := k }
    else none
  | .pushing request stage => some (p.push request stage k)
  | .answering request failure? =>
    some { pump := { p with phase := .idle }, stdin := k, act := .answer request.ticket failure? }
  | .releasing hold =>
    some { pump := { p with phase := hold.next }, stdin := k, act := .release hold }
  | .done => none

/-- A bound on the number of steps that a message takes. -/
def effort (request : Request) : Nat :=
  8 * (request.payload.length + 1) + 32

/-- A bound on the number of steps that a pump can take before it has to wait or is done. -/
def work (p : Pump) (queue : List Request) (k : Sink) : Nat :=
  let inHand :=
    match p.phase with
    | .done => 0
    | .releasing .queue => 1
    | .releasing .stdin => 2
    | .deaf => 3
    | .idle => 4
    | .answering _ _ => 6
    | .poised request stage needsRoom =>
      let turn := if !needsRoom || k.isReady then 2 else 0
      (if stage = .clearing then effort request else 8) + turn
    | .pushing request stage => (if stage = .clearing then effort request else 8) + 1
  inHand + 8 * p.buffer.length + queue.foldr (fun request total => effort request + total) 0

end Pump
end Traversal
