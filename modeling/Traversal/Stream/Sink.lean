import Traversal.Bytes
import Traversal.Stream.Fault

/-!
# The writing end of a stream

A sink takes bytes until its budget is used up and then makes the writer wait.  Faults are queued at
positions of the written stream: once the position of the first fault has been reached, one write
fails with it, or takes nothing and says so; a write that would pass the position stops there.  The
fault comes before the budget.  Flushes fail as often as flush faults are queued, and a successful
flush covers all that has been written.  Any change at the far side stirs the sink, until the writer takes
note of it or has to wait again.
-/

namespace Traversal

/-- How a queued write fault shows. -/
inductive WriteFault
  | fails (fault : IoFault)
  /-- The write succeeds and takes no byte. -/
  | takesNothing
deriving DecidableEq, Repr

/-- Whether a write that meets the fault was merely interrupted. -/
def WriteFault.isInterruption : WriteFault → Bool
  | fails fault => fault.isInterruption
  | takesNothing => false

/-- What one write yields. -/
inductive WriteResult
  /-- So many bytes were taken from the front, at least one unless nothing was offered. -/
  | taken (count : Nat)
  | nothing
  | fault (fault : IoFault)
  /-- There is no room; the writer has to wait. -/
  | pending
deriving DecidableEq, Repr

/-- A change at the far side of a sink. -/
inductive SinkEvent
  /-- So many more bytes are accepted; without a number there is no bound. -/
  | budget (count : Option Nat)
  /-- A single write takes at most so many bytes. -/
  | maxWrite (count : Option Nat)
  /-- A write fault `after` more bytes. -/
  | writeFault (fault : WriteFault) (after : Nat)
  | flushFault (fault : IoFault)
  /-- The far side is gone: every later write fails. -/
  | broken (fault : IoFault)
deriving DecidableEq, Repr

/-- The writing end of a stream. -/
structure Sink where
  /-- The bytes written, latest first. -/
  writtenRev : Bytes := []
  count : Nat := 0
  /-- How much had been written at the last successful flush. -/
  flushed : Nat := 0
  budget : Option Nat := none
  maxWrite : Option Nat := none
  faults : List (Nat × WriteFault) := []
  flushFaults : List IoFault := []
  broken : Option IoFault := none
  /-- The far side has changed since the writer took note of it. -/
  isStirred : Bool := false
deriving Repr

namespace Sink

/-- The bytes written, in order. -/
def written (s : Sink) : Bytes :=
  s.writtenRev.reverse

/-- The writer takes note of the far side. -/
def calm (s : Sink) : Sink :=
  { s with isStirred := false }

/-- What a change at the far side does, apart from stirring the sink. -/
def change (s : Sink) : SinkEvent → Sink
  | .budget count => { s with budget := count }
  | .maxWrite count => { s with maxWrite := count }
  | .writeFault fault after => { s with faults := s.faults ++ [(s.count + after, fault)] }
  | .flushFault fault => { s with flushFaults := s.flushFaults ++ [fault] }
  | .broken fault => { s with broken := some fault }

/-- Applies a change at the far side. -/
def apply (s : Sink) (event : SinkEvent) : Sink :=
  { s.change event with isStirred := true }

/-- The smaller of two bounds, where no bound is no limit. -/
def tighter : Option Nat → Option Nat → Option Nat
  | none, b => b
  | a, none => a
  | some a, some b => some (min a b)

/-- The most bytes that the next write takes if no fault is due. -/
def limit (s : Sink) : Option Nat :=
  tighter (tighter s.maxWrite s.budget) (s.faults.head?.map fun fault => fault.1 - s.count)

/-- The part of the offered bytes that the next write takes if no fault is due. -/
def portion (s : Sink) (bytes : Bytes) : Bytes :=
  match s.limit with
  | none => bytes
  | some n => bytes.take n

/-- Takes all of a portion. -/
def accept (s : Sink) (portion : Bytes) : Sink :=
  { s with
    writtenRev := portion.reverseAux s.writtenRev
    count := s.count + portion.length
    budget := s.budget.map (· - portion.length) }

/-- The fault that the next write meets, if its position has been reached. -/
def dueFault (s : Sink) : Option WriteFault :=
  match s.faults with
  | (position, fault) :: _ => if position ≤ s.count then some fault else none
  | [] => none

/-- Offers bytes once. -/
def write (s : Sink) (bytes : Bytes) : WriteResult × Sink :=
  match s.broken with
  | some fault => (.fault fault, s)
  | none =>
    match s.dueFault with
    | some (.fails fault) => (.fault fault, { s with faults := s.faults.tail })
    | some .takesNothing => (.nothing, { s with faults := s.faults.tail })
    | none =>
      if bytes.isEmpty then (.taken 0, s)
      else
        match s.portion bytes with
        | [] => (.pending, s.calm)
        | portion => (.taken portion.length, s.accept portion)

/-- The sink behind the interruptions that are due. -/
def uninterrupted (s : Sink) : Sink :=
  { s with faults := s.faults.dropWhile fun due => due.1 ≤ s.count && due.2.isInterruption }

/-- Offers bytes, and once more after each interruption that is due. -/
def offer (s : Sink) (bytes : Bytes) : WriteResult × Sink :=
  s.uninterrupted.write bytes

/-- Flushes once; a queued flush fault is used up. -/
def flush (s : Sink) : Option IoFault × Sink :=
  match s.flushFaults with
  | fault :: rest => (some fault, { s with flushFaults := rest })
  | [] => (none, { s with flushed := s.count })

/-- Whether a write of at least one byte need not wait. -/
def isReady (s : Sink) : Bool :=
  s.broken.isSome || s.dueFault.isSome || s.limit ≠ some 0

end Sink
end Traversal
