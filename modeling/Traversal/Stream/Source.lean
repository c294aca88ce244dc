import Traversal.Bytes
import Traversal.Stream.Fault

/-!
# The reading end of a stream

A source holds what has arrived and has not been read: chunks of bytes, faults and the end of the
stream.  A read takes the oldest chunk whole, or as much of it as there is room for, reports the oldest
fault once, or reports the end, which stays.  With nothing at hand a read has to wait.
-/

namespace Traversal

/-- Something that reaches the reading end of a stream. -/
inductive Arrival
  | data (bytes : Bytes)
  | fault (fault : IoFault)
  | eof
deriving DecidableEq, Repr

/-- What one read yields. -/
inductive ReadResult
  /-- At least one byte. -/
  | chunk (bytes : Bytes)
  | fault (fault : IoFault)
  | eof
  /-- Nothing has arrived; the reader has to wait. -/
  | pending
deriving DecidableEq, Repr

/-- The reading end of a stream. -/
structure Source where
  arrivals : List Arrival := []
deriving DecidableEq, Repr

namespace Source

/-- Something arrives behind everything else; an empty chunk is nothing. -/
def arrive (s : Source) : Arrival → Source
  | .data [] => s
  | a => { s with arrivals := s.arrivals ++ [a] }

/-- Whether a read need not wait. -/
def isReady (s : Source) : Bool :=
  !s.arrivals.isEmpty

/-- The bytes that have arrived, and one more for each arrival. -/
def size (s : Source) : Nat :=
  s.arrivals.foldr (fun a total =>
    match a with
    | .data bytes => bytes.length + 1 + total
    | _ => 1 + total) 0

/-- Reads once. -/
def read (s : Source) : ReadResult × Source :=
  match s.arrivals with
  | [] => (.pending, s)
  | .data bytes :: rest => (.chunk bytes, { s with arrivals := rest })
  | .fault fault :: rest => (.fault fault, { s with arrivals := rest })
  | .eof :: _ => (.eof, s)

/-- Reads once, at most so many bytes. -/
def readUpTo (room : Nat) (s : Source) : ReadResult × Source :=
  match s.read with
  | (.chunk bytes, rest) =>
    if bytes.length ≤ room then (.chunk bytes, rest)
    else (.chunk (bytes.take room), { arrivals := .data (bytes.drop room) :: rest.arrivals })
  | other => other

end Source
end Traversal
