import Traversal.Bytes

/-!
# Configurations

What one session needs to know about its engine, and the limits that its numbers must keep.
-/

namespace Traversal

/-- Where the engine's executable comes from. -/
inductive Binary
  /-- A file that exists already. -/
  | path (path : String)
  /-- The bytes of an executable, written to a file of its own for each session. -/
  | embedded (content : Bytes)
deriving DecidableEq, Repr

/-- The settings of one engine session. -/
structure Config where
  binary : Binary
  /-- Arguments behind the flag for the role. -/
  extraArgs : List String := []
  /-- The greatest length of a record on the engine's standard output. -/
  maxLineBytes : Nat := 1048576
  errorQueueCapacity : Nat := 10
  inboundQueueCapacity : Nat := 16
  /-- The milliseconds that an engine has to exit by itself before it is killed. -/
  shutdownGrace : Nat := 5000
deriving DecidableEq, Repr

namespace Config

/-- The least capacity of the queue of notices. -/
def minErrorQueueCapacity : Nat := 10

/-- A limit that a configuration breaks. -/
inductive Violation
  | maxLineBytesZero
  | errorQueueCapacityLow
  | inboundQueueCapacityZero
  | binaryEmpty
deriving DecidableEq, Repr

/-- The wording of a violation. -/
def Violation.message : Violation → String
  | maxLineBytesZero => "max_line_bytes must be greater than zero"
  | errorQueueCapacityLow =>
    "error_queue_capacity must be at least " ++ toString minErrorQueueCapacity
  | inboundQueueCapacityZero => "inbound_queue_capacity must be greater than zero"
  | binaryEmpty => "binary must not be empty"

/-- The first limit that a configuration breaks, if any. -/
def violation? (c : Config) : Option Violation :=
  if c.maxLineBytes = 0 then some .maxLineBytesZero
  else if c.errorQueueCapacity < minErrorQueueCapacity then some .errorQueueCapacityLow
  else if c.inboundQueueCapacity = 0 then some .inboundQueueCapacityZero
  else if c.binary = .path "" then some .binaryEmpty
  else none

/-- The capacity of the queue of inbound messages. -/
def inboundQueueSize (c : Config) : Nat :=
  max c.inboundQueueCapacity 1

/-- The capacity of the queue of notices. -/
def noticeQueueSize (c : Config) : Nat :=
  max c.errorQueueCapacity minErrorQueueCapacity

end Config
end Traversal
