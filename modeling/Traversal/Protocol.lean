/-!
# Transport protocols

The protocols that a negotiated path can run over, and their names on the wire.
-/

namespace Traversal

/-- The transport protocol of a negotiated path. -/
inductive Protocol
  | udp
  | tcp
deriving DecidableEq, Repr

namespace Protocol

/-- The name of a protocol on the wire. -/
def name : Protocol → String
  | udp => "udp"
  | tcp => "tcp"

/-- The names of all protocols. -/
def names : List String :=
  [udp.name, tcp.name]

/-- The protocol of a name. -/
def ofName? (text : String) : Option Protocol :=
  if text = udp.name then some udp
  else if text = tcp.name then some tcp
  else none

theorem ofName?_name (p : Protocol) : ofName? p.name = some p := by
  cases p <;> rfl

theorem eq_name_of_ofName? {text : String} {p : Protocol} (h : ofName? text = some p) :
    text = p.name := by
  unfold ofName? at h
  split at h
  · next heq => rw [← Option.some.inj h, heq]
  · split at h
    · next heq => rw [← Option.some.inj h, heq]
    · simp at h

end Protocol
end Traversal
