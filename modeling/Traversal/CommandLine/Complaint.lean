import Traversal.CommandLine.Usage
import Traversal.Text.Similarity
import Traversal.Text.Visible

/-!
# Complaints about a command line

Why a command line cannot be understood, and what the user is told about it.
-/

namespace Traversal.CommandLine

/-- Why a text is not a number. -/
inductive NumberFault
  | empty
  | invalidDigit
  | tooLarge
deriving DecidableEq, Repr

/-- The wording of a fault of a number. -/
def NumberFault.message : NumberFault → String
  | empty => "cannot parse integer from empty string"
  | invalidDigit => "invalid digit found in string"
  | tooLarge => "number too large to fit in target type"

/-- A guess at what an unexpected argument was meant to be. -/
inductive Guess
  | none
  | option (p : Parameter)
  /-- A value that looks like an option. -/
  | value
deriving DecidableEq, Repr

/-- Why a command line cannot be understood. -/
inductive Complaint
  /-- A parameter has no value. -/
  | valueMissing (p : Parameter)
  /-- A value is none of those to choose from. -/
  | valueUnknown (p : Parameter) (value : String)
  | numberMalformed (p : Parameter) (value : String) (fault : NumberFault)
  /-- A value is given to an option that has none, before or after others have been used. -/
  | valueUnwanted (p : Parameter) (value : String) (isFirst : Bool)
  | repeated (p : Parameter)
  | unexpected (argument : String) (guess : Guess) (used : List Parameter)
  | roleMissing (used : List Parameter)
deriving DecidableEq, Repr

namespace Complaint

/-- The values that can be chosen, on a line of their own. -/
def choicesLine (p : Parameter) : String :=
  if p.choices.isEmpty then "" else "\n  [possible values: " ++ ", ".intercalate p.choices ++ "]"

/-- A piece of advice, set apart. -/
def tip (text : String) : String :=
  "\n\n  tip: " ++ text

/-- A text of the user between quotes. -/
def quoted (text : String) : String :=
  "'" ++ Text.visible text ++ "'"

/-- The advice that goes with a guess. -/
def advice (argument : String) : Guess → String
  | .none => ""
  | .option p => tip ("a similar argument exists: '--" ++ p.name ++ "'")
  | .value =>
    tip ("to pass " ++ quoted argument ++ " as a value, use " ++ quoted ("-- " ++ argument))

/-- A usage, set apart. -/
def apart (usage : String) : String :=
  "\n\n" ++ usage

/-- The wording of a complaint. -/
def message : Complaint → String
  | valueMissing p =>
    "a value is required for '" ++ p.shown ++ "' but none was supplied" ++ choicesLine p
  | valueUnknown p value =>
    "invalid value " ++ quoted value ++ " for '" ++ p.shown ++ "'" ++ choicesLine p
      ++ ((Text.closest? value p.choices).elim "" fun choice =>
        tip ("a similar value exists: '" ++ choice ++ "'"))
  | numberMalformed p value fault =>
    "invalid value " ++ quoted value ++ " for '" ++ p.shown ++ "': " ++ fault.message
  | valueUnwanted p value isFirst =>
    "unexpected value " ++ quoted value ++ " for '" ++ p.shown ++ "' found; no more were expected"
      ++ apart (if isFirst then usage [p] else usageBesideSettings p)
  | repeated p =>
    "the argument '" ++ p.shown ++ "' cannot be used multiple times" ++ apart (usage [])
  | unexpected argument guess used =>
    "unexpected argument " ++ quoted argument ++ " found" ++ advice argument guess
      ++ apart (usage used)
  | roleMissing used =>
    "the following required arguments were not provided:\n  " ++ Parameter.role.shown
      ++ apart (usage (used ++ [.role]))

/-- What the user is told. -/
def report (c : Complaint) : String :=
  "error: " ++ c.message ++ "\n\nFor more information, try '--help'.\n"

end Complaint
end Traversal.CommandLine
