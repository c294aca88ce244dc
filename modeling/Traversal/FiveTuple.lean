import Traversal.Bytes
import Traversal.Json.Quoted
import Traversal.Protocol

/-!
# Negotiated paths

A five-tuple is the outcome of a negotiation: a protocol and the two endpoints of the path.  It is
written for people on one line and for programs as a JSON object of three members in fixed order.
A record of the engine that carries the marker `5-tuple` reports such an outcome.
-/

namespace Traversal

/-- A protocol with the local and the remote endpoint of a path. -/
structure FiveTuple where
  protocol : Protocol
  localEnd : String
  remoteEnd : String
deriving DecidableEq, Repr

namespace FiveTuple

/-- A path on one line. -/
def display (t : FiveTuple) : String :=
  t.protocol.name ++ " " ++ t.localEnd ++ " -> " ++ t.remoteEnd

/-- The characters of a member whose value is a text. -/
def member (name : String) (value : String) : List Char :=
  Json.quoted name.toList ++ ':' :: Json.quoted value.toList

/-- The characters of a path's JSON text. -/
def jsonChars (t : FiveTuple) : List Char :=
  '\x7b' :: member "proto" t.protocol.name ++ ',' :: member "local" t.localEnd
    ++ ',' :: member "remote" t.remoteEnd ++ ['\x7d']

/-- A path as a JSON object. -/
def json (t : FiveTuple) : String :=
  String.ofList t.jsonChars

/-- The bytes of a path's JSON text. -/
def encode (t : FiveTuple) : Bytes :=
  Bytes.ofChars t.jsonChars

/-- The bytes that mark a record as the outcome of a negotiation. -/
def marker : Bytes :=
  Bytes.ofText "5-tuple"

/-- Whether a record is marked as the outcome of a negotiation. -/
def isMarked (record : Bytes) : Bool :=
  Bytes.occurs marker record

end FiveTuple
end Traversal
