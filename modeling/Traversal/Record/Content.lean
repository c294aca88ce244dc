import Traversal.Failure
import Traversal.FiveTuple.Reader

/-!
# What a record says

A record of the engine is either the outcome of the negotiation, which its marker gives away, or a
signaling message for the remote peer, which nobody but the peer reads.
-/

namespace Traversal.Record

/-- What a record of the engine is about. -/
inductive Content
  /-- The negotiated path. -/
  | result (t : FiveTuple)
  /-- A message for the remote peer. -/
  | signal (message : Bytes)
deriving DecidableEq, Repr

/-- Reads a record as the outcome of the negotiation. -/
def readResult (record : Bytes) : Except Failure FiveTuple :=
  (FiveTuple.decode record).mapError .resultMalformed

/-- Tells what a record is about; a marked record must be an outcome. -/
def classify (record : Bytes) : Except Failure Content :=
  if FiveTuple.isMarked record then (readResult record).map .result else .ok (.signal record)

end Traversal.Record
