/-!
# Parameters

What can be said on the command line: the role, which stands for itself, and options with long names.
-/

namespace Traversal.CommandLine

/-- Something that can be said on the command line. -/
inductive Parameter
  | role
  | config
  | binary
  | debug
  | timeout
  | logFormat
  | help
  | version
deriving DecidableEq, Repr

namespace Parameter

/-- The options in their order. -/
def options : List Parameter :=
  [config, binary, debug, timeout, logFormat, help, version]

/-- The parameters that say what session to run. -/
def settings : List Parameter :=
  [role, config, binary, debug, timeout, logFormat]

/-- The long name of an option. -/
def name : Parameter → String
  | role => "role"
  | config => "config"
  | binary => "binary"
  | debug => "debug"
  | timeout => "timeout-secs"
  | logFormat => "log-format"
  | help => "help"
  | version => "version"

/-- The option of a long name. -/
def ofName? (text : String) : Option Parameter :=
  options.find? (·.name = text)

/-- The option of a letter. -/
def ofLetter? (c : Char) : Option Parameter :=
  if c = 'h' then some help else if c = 'V' then some version else none

/-- What stands for the value of a parameter; nothing if it has none. -/
def placeholder? : Parameter → Option String
  | role => some "<ROLE>"
  | config => some "<CONFIG>"
  | binary => some "<BINARY>"
  | timeout => some "<TIMEOUT_SECS>"
  | logFormat => some "<LOG_FORMAT>"
  | _ => none

/-- The values to choose from; none if there are too many to name. -/
def choices : Parameter → List String
  | role => ["offer", "answer"]
  | logFormat => ["text", "json"]
  | _ => []

/-- A parameter as it is written on a command line. -/
def shown (p : Parameter) : String :=
  let words := (if p = role then [] else ["--" ++ p.name]) ++ p.placeholder?.toList
  " ".intercalate words

/-- A parameter as it is written among alternatives. -/
def shownAmong (p : Parameter) : String :=
  if p = role then "ROLE" else p.shown

end Parameter
end Traversal.CommandLine
