import Traversal.Config.Reader
import Traversal.Role

/-!
# Arguments

What a command line asks for, and the configuration that this leads to.
-/

namespace Traversal.CommandLine

/-- The format of the log. -/
inductive LogFormat
  | text
  | json
deriving DecidableEq, Repr

/-- What a command line asks for. -/
structure Arguments where
  role : Role
  /-- The path of the configuration file. -/
  config? : Option String := none
  /-- The path of the engine, which counts more than the one in the configuration. -/
  binary? : Option String := none
  wantsDebug : Bool := false
  /-- The seconds after which the session is cancelled. -/
  timeout? : Option Nat := none
  logFormat : LogFormat := .text
deriving DecidableEq, Repr

/-- The configuration to use, given what the files hold. -/
def Arguments.configure (a : Arguments) (content : String → Except IoFault Bytes) :
    Except Failure Config :=
  match a.config?, a.binary? with
  | some path, binary? => do
    let config ← Config.load (content path)
    Config.validate { config with binary := binary?.elim config.binary .path }
  | none, some path => Config.validate { binary := .path path }
  | none, none => .error .binaryUnknown

/-- What the program says when it gives up. -/
def lastWords (failure : Failure) : String :=
  "Error: " ++ failure.literal ++ "\n"

end Traversal.CommandLine
