import Traversal.Config
import Traversal.Json.Fault
import Traversal.Stream.Fault
import Traversal.Text.Literal
import Traversal.Toml.Fault

/-!
# Failures of a session

Everything that can go wrong, by its cause.  A failure is of one of eight kinds and has a wording; both
show in its message and in its literal, which is the form that a program prints when it gives up.
-/

namespace Traversal

/-- The kinds of failure. -/
inductive FailureKind
  | config
  | setup
  | decode
  | io
  | exit
  | write
  | sessionClosed
  | cancelled
deriving DecidableEq, Repr

namespace FailureKind

/-- The kinds in their order. -/
def all : List FailureKind :=
  [config, setup, decode, io, exit, write, sessionClosed, cancelled]

/-- The name of a kind. -/
def name : FailureKind → String
  | config => "Config"
  | setup => "Setup"
  | decode => "Decode"
  | io => "Io"
  | exit => "Exit"
  | write => "Write"
  | sessionClosed => "SessionClosed"
  | cancelled => "Cancelled"

/-- The words that begin the message of a failure of this kind. -/
def heading : FailureKind → String
  | config => "config"
  | setup => "setup"
  | decode => "decode"
  | io => "io"
  | exit => "exit"
  | write => "write"
  | sessionClosed => "session closed"
  | cancelled => "cancelled"

end FailureKind

/-- A step on the way from a configured binary to a running engine. -/
inductive SetupStep
  | createFile
  | writeFile
  | markExecutable
  | spawn
deriving DecidableEq, Repr

/-- What a setup step fails to do. -/
def SetupStep.message : SetupStep → String
  | createFile => "failed to create engine file"
  | writeFile => "failed to write engine file"
  | markExecutable => "failed to mark engine executable"
  | spawn => "failed to spawn engine"

/-- Why something failed. -/
inductive Failure
  /-- A failure in the words of whoever reports it. -/
  | described (kind : FailureKind) (text : String)
  /-- The configuration file could not be read. -/
  | configUnreadable (fault : IoFault)
  | configMalformed (fault : Toml.Fault)
  | configViolation (violation : Config.Violation)
  /-- Neither a configuration file nor a binary was named. -/
  | binaryUnknown
  | setup (step : SetupStep) (fault : IoFault)
  /-- A record that carries the result marker is no result. -/
  | resultMalformed (fault : Json.Fault)
  | protocolUnknown (name : String)
  /-- A stream failed. -/
  | stream (fault : IoFault)
  | lineTooLong (limit : Nat)
  /-- Copying the engine's diagnostics failed. -/
  | relay (fault : IoFault)
  | exitCode (code : Nat)
  | exitBySignal
  | waitFailed (fault : IoFault)
  /-- A message could not be written to the engine. -/
  | writeFailed (fault : IoFault)
  /-- The session ended while a message was being written. -/
  | writeCutOff
  /-- The session is over, or was never started, when a message is submitted. -/
  | notAccepting (session : String)
  /-- The session ended while a message was waiting. -/
  | endedUnwritten (session : String)
  | cancelled
deriving DecidableEq, Repr

namespace Failure

/-- The kind of a failure. -/
def kind : Failure → FailureKind
  | described kind _ => kind
  | configUnreadable _ => .config
  | configMalformed _ => .config
  | configViolation _ => .config
  | binaryUnknown => .config
  | setup _ _ => .setup
  | resultMalformed _ => .decode
  | protocolUnknown _ => .decode
  | stream _ => .io
  | lineTooLong _ => .io
  | relay _ => .io
  | exitCode _ => .exit
  | exitBySignal => .exit
  | waitFailed _ => .exit
  | writeFailed _ => .write
  | writeCutOff => .sessionClosed
  | notAccepting _ => .sessionClosed
  | endedUnwritten _ => .sessionClosed
  | cancelled => .cancelled

/-- The wording of a failure. -/
def detail : Failure → String
  | described _ text => text
  | configUnreadable fault => "failed to read config: " ++ fault.message
  | configMalformed fault => "invalid config: " ++ fault.message
  | configViolation violation => violation.message
  | binaryUnknown => "either --config or --binary is required"
  | setup step fault => step.message ++ ": " ++ fault.message
  | resultMalformed fault => "malformed result record: " ++ fault.message
  | protocolUnknown name => "unknown protocol: " ++ name
  | stream fault => fault.message
  | lineTooLong limit => "line too long: exceeded " ++ toString limit ++ " bytes"
  | relay fault => "stderr relay failed: " ++ fault.message
  | exitCode code => "engine exited with code " ++ toString code
  | exitBySignal => "engine terminated by signal"
  | waitFailed fault => "failed to wait for engine: " ++ fault.message
  | writeFailed fault =>
    "write to engine stdin failed: " ++ FailureKind.io.heading ++ ": " ++ fault.message
  | writeCutOff => "session ended before the message was written"
  | notAccepting session => "session " ++ session ++ " is not accepting messages"
  | endedUnwritten session => "session " ++ session ++ " ended before the message was written"
  | cancelled => "session cancelled by caller"

/-- The message of a failure. -/
def message (failure : Failure) : String :=
  failure.kind.heading ++ ": " ++ failure.detail

/-- A failure as a program prints it when it gives up. -/
def literal (failure : Failure) : String :=
  failure.kind.name ++ "(" ++ Text.literal failure.detail ++ ")"

end Failure
end Traversal
