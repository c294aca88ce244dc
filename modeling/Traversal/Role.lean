/-!
# Negotiation roles

Which side of a negotiation the engine plays, and the flag that tells it so.
-/

namespace Traversal

/-- The side of a negotiation that the engine plays. -/
inductive Role
  /-- Opens the negotiation with an offer. -/
  | offerer
  /-- Waits for an offer and accepts it. -/
  | answerer
deriving DecidableEq, Repr

namespace Role

/-- The name of a role. -/
def name : Role → String
  | offerer => "offerer"
  | answerer => "answerer"

/-- The engine's flag for a role; an engine without a flag answers. -/
def flag : Role → Option String
  | offerer => some "-offer"
  | answerer => none

end Role
end Traversal
