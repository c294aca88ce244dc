import Traversal.CommandLine.Parameter

/-!
# Usage

What the program says about how it is called.
-/

namespace Traversal.CommandLine

/-- The name of the program. -/
def programName : String := "natty"

/-- The program and its version on one line. -/
def versionText : String :=
  programName ++ " 0.1.0\n"

/-- A usage that consists of some words. -/
def usageOf (words : List String) : String :=
  "Usage: " ++ " ".intercalate (programName :: words)

/-- How the program is called, with the parameters that have been used; in general if none has. -/
def usage (used : List Parameter) : String :=
  let options := (used.filter (· ≠ .role)).map Parameter.shown
  let words := if used.isEmpty then ["[OPTIONS]"] else options
  usageOf (words ++ [Parameter.role.shown])

/-- How the program is called with a parameter and any setting. -/
def usageBesideSettings (p : Parameter) : String :=
  let anySetting := "<" ++ "|".intercalate (Parameter.settings.map Parameter.shownAmong) ++ ">"
  usageOf ((if Parameter.settings.contains p then [] else [p.shown]) ++ [anySetting])

/-- What the program is for and what can be said on its command line. -/
def helpText : String :=
  "Run one natty NAT traversal session\n\n" ++ usage [] ++ "\n\n"
    ++ "Arguments:\n"
    ++ "  <ROLE>  Negotiation role [possible values: offer, answer]\n\n"
    ++ "Options:\n"
    ++ "      --config <CONFIG>              Path to the TOML configuration file\n"
    ++ "      --binary <BINARY>              Engine executable; overrides `binary` from the config file\n"
    ++ "      --debug                        Run the engine with `-debug` and relay its stderr\n"
    ++ "      --timeout-secs <TIMEOUT_SECS>  Give up after this many seconds\n"
    ++ "      --log-format <LOG_FORMAT>      Log output format (text or json) [default: text] "
    ++ "[possible values: text, json]\n"
    ++ "  -h, --help                         Print help\n"
    ++ "  -V, --version                      Print version\n"

end Traversal.CommandLine
