import Traversal.Failure

/-!
# How the engine ended

The system reports the end of a process as one word: the low seven bits are zero if the process ended
by itself, and then the next byte is its exit code.
-/

namespace Traversal.Engine

/-- The word in which the system reports the end of a process. -/
structure WaitStatus where
  word : UInt32
deriving DecidableEq, Repr

namespace WaitStatus

/-- The status of a process that ended by itself. -/
def exited (code : UInt8) : WaitStatus :=
  ⟨code.toUInt32 <<< 8⟩

/-- The status of a process that a signal ended. -/
def signalled (signal : UInt8) : WaitStatus :=
  ⟨(signal &&& 127).toUInt32⟩

/-- The exit code of a process that ended by itself. -/
def code? (s : WaitStatus) : Option Nat :=
  if s.word &&& 127 = 0 then some ((s.word >>> 8) &&& 255).toNat else none

end WaitStatus

/-- What an end means for the session: nothing if it is clean, a failure otherwise. -/
def exitFailure? : Except IoFault WaitStatus → Option Failure
  | .ok status =>
    if status.word = 0 then none
    else
      match status.code? with
      | some code => some (.exitCode code)
      | none => some .exitBySignal
  | .error fault => some (.waitFailed fault)

end Traversal.Engine
