import Traversal.Role

/-!
# Invoking the engine

The arguments that an engine is started with.
-/

namespace Traversal.Engine

/-- The flag that makes the engine write diagnostics. -/
def debugFlag : String := "-debug"

/-- The engine's arguments: the flag for its role, the configured ones, and the flag for diagnostics
if somebody wants them. -/
def arguments (role : Role) (extra : List String) (wantsDebug : Bool) : List String :=
  role.flag.toList ++ extra ++ (if wantsDebug then [debugFlag] else [])

end Traversal.Engine
