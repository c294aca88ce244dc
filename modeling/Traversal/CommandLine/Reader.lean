import Traversal.CommandLine.Arguments
import Traversal.CommandLine.Complaint

/-!
# Reading a command line

A command line is read argument by argument.  A value is only looked at when the next parameter or the end
is reached, so that an argument that is unexpected altogether is complained about before a value that is
wrong.  Behind a double dash nothing is an option.
-/

namespace Traversal.CommandLine

/-- What a command line amounts to. -/
inductive Request
  /-- A session is to be run. -/
  | run (a : Arguments)
  | help
  | version
  | refused (c : Complaint)
deriving DecidableEq, Repr

/-- What has been read of a command line. -/
structure Draft where
  role? : Option Role := none
  /-- The other settings. -/
  settings : Arguments := { role := .offerer }
  /-- The parameters that have been used, in order. -/
  used : List Parameter := []
  /-- The parameter that was read last and its value, while neither has been looked at. -/
  pending : Option (Parameter × Option String) := none
  /-- Whether something has been read that stands for itself. -/
  hasOperand : Bool := false
  /-- Whether a double dash has been read. -/
  isTrailing : Bool := false

namespace Draft

/-- The greatest number of seconds. -/
def timeoutLimit : Nat := Nat.pow 2 64

/-- Reads the digits of a number behind others. -/
def readDigits : Nat → List Char → Except NumberFault Nat
  | n, [] => .ok n
  | n, c :: rest =>
    if !c.isDigit then .error .invalidDigit
    else if timeoutLimit ≤ 10 * n + (c.toNat - '0'.toNat) then .error .tooLarge
    else readDigits (10 * n + (c.toNat - '0'.toNat)) rest

/-- Reads a number. -/
def readNumber (text : String) : Except NumberFault Nat :=
  match text.toList with
  | [] => .error .empty
  | '+' :: [] => .error .invalidDigit
  | '+' :: digits => readDigits 0 digits
  | digits => readDigits 0 digits

/-- Sets a parameter to a value. -/
def set (d : Draft) (p : Parameter) (value : String) : Except Complaint Draft :=
  let settings := d.settings
  match p with
  | .role =>
    match value with
    | "offer" => .ok { d with role? := some .offerer }
    | "answer" => .ok { d with role? := some .answerer }
    | _ => .error (.valueUnknown p value)
  | .logFormat =>
    match value with
    | "text" => .ok { d with settings := { settings with logFormat := .text } }
    | "json" => .ok { d with settings := { settings with logFormat := .json } }
    | _ => .error (.valueUnknown p value)
  | .config => .ok { d with settings := { settings with config? := some value } }
  | .binary => .ok { d with settings := { settings with binary? := some value } }
  | .timeout =>
    match readNumber value with
    | .ok seconds => .ok { d with settings := { settings with timeout? := some seconds } }
    | .error fault => .error (.numberMalformed p value fault)
  | .debug => .ok { d with settings := { settings with wantsDebug := true } }
  | .help => .ok d
  | .version => .ok d

/-- Whether a value is as good as none. -/
def isMissing (p : Parameter) (value : String) : Bool :=
  value.isEmpty && p ≠ .timeout && p.placeholder?.isSome

/-- Uses a parameter with a value.  A parameter counts as used even if its value is wrong, but not if it
is used for a second time. -/
def accept (d : Draft) (p : Parameter) (value : String) : Draft × Option Complaint :=
  if d.used.contains p then ({ d with used := d.used.erase p }, some (.repeated p))
  else
    let d := { d with used := d.used ++ [p] }
    if isMissing p value then (d, some (.valueMissing p))
    else
      match d.set p value with
      | .ok d => (d, none)
      | .error complaint => (d, some complaint)

/-- Looks at the parameter that was read last. -/
def resolve (d : Draft) : Draft × Option Complaint :=
  let rest := { d with pending := none }
  match d.pending with
  | none => (d, none)
  | some (p, none) => (rest, some (.valueMissing p))
  | some (p, some value) => rest.accept p value

/-- Looks at the parameter that was read last and goes on if there is nothing to complain about. -/
def settled (d : Draft) : Except Request Draft :=
  match d.resolve with
  | (d, none) => .ok d
  | (_, some complaint) => .error (.refused complaint)

/-- Uses a parameter at once. -/
def use (d : Draft) (p : Parameter) (value : String) : Except Request Draft := do
  let d ← d.settled
  match p with
  | .help => .error .help
  | .version => .error .version
  | _ =>
    match d.accept p value with
    | (d, none) => .ok d
    | (_, some complaint) => .error (.refused complaint)

/-- Refuses an argument that begins with a long name that there is not.  If another name is similar, the
usage shows that one. -/
def refuseName (d : Draft) (name : String) : Request :=
  let used := d.resolve.1.used
  let guess? := (Text.closest? name (Parameter.options.map (·.name))).bind Parameter.ofName?
  let argument := "--" ++ name
  match guess? with
  | some p =>
    .refused (.unexpected argument (.option p) (if used.contains p then used else used ++ [p]))
  | none => .refused (.unexpected argument .value used)

/-- Reads an argument that begins with two dashes. -/
def readLong (d : Draft) (text : List Char) : Except Request Draft :=
  let name := String.ofList (text.takeWhile (· ≠ '='))
  let value? :=
    match text.dropWhile (· ≠ '=') with
    | [] => none
    | _ :: value => some (String.ofList value)
  match Parameter.ofName? name with
  | none => .error (d.refuseName name)
  | some p =>
    match p.placeholder?, value? with
    | some _, some value => d.use p value
    | some _, none => do return { ← d.settled with pending := some (p, none) }
    | none, some value =>
      .error (.refused (.valueUnwanted p value d.used.isEmpty))
    | none, none => d.use p ""

/-- Reads an argument that begins with one dash. -/
def readShort (d : Draft) (letter : Char) : Except Request Draft :=
  match Parameter.ofLetter? letter with
  | some p => d.use p ""
  | none => .error (.refused (.unexpected (String.ofList ['-', letter]) .value []))

/-- Reads an argument that stands for itself. -/
def readOperand (d : Draft) (argument : String) : Except Request Draft :=
  if d.hasOperand then .error (.refused (.unexpected argument .none []))
  else do
    let d ← d.settled
    return { d with pending := some (.role, some argument), hasOperand := true }

/-- Reads an argument. -/
def read (d : Draft) (argument : String) : Except Request Draft :=
  if d.isTrailing then d.readOperand argument
  else
    match argument.toList with
    | ['-', '-'] => .ok { d with isTrailing := true }
    | '-' :: '-' :: text => d.readLong text
    | '-' :: letter :: _ => d.readShort letter
    | _ =>
      match d.pending with
      | some (p, none) => .ok { d with pending := some (p, some argument) }
      | _ => d.readOperand argument

/-- What a command line amounts to when all of it has been read. -/
def finish (d : Draft) : Request :=
  match d.settled with
  | .error request => request
  | .ok d =>
    match d.role? with
    | some role => .run { d.settings with role }
    | none => .refused (.roleMissing d.used)

end Draft

/-- Reads a command line. -/
def read (arguments : List String) : Request :=
  match arguments.foldlM Draft.read {} with
  | .ok draft => draft.finish
  | .error request => request

end Traversal.CommandLine
