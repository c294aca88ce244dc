import Traversal.Host.Program
import Traversal.Shell.Command

/-!
# What a shell does

A shell has variables, functions, arguments and options, and what it does next depends on them.  A `Job` is
something that a shell does: it makes a program out of what is done behind it.  A job may be left early, in
one of the ways that the language has for that.
-/

namespace Traversal.Shell

open Host

/-- A variable.  It may be known without having a value. -/
structure Variable where
  value : Option Text := none
  isExported : Bool := false
  isConstant : Bool := false
deriving DecidableEq, Repr

/-- The options that a shell has. -/
inductive Switch
  /-- To leave at the first failure. -/
  | leavesOnFailure
  /-- To refuse variables that are not set. -/
  | refusesUnset
  /-- To show commands before they are run. -/
  | traces
deriving DecidableEq, Repr

/-- The letter of an option. -/
def Switch.letter : Switch → Char
  | leavesOnFailure => 'e'
  | refusesUnset => 'u'
  | traces => 'x'

/-- The state of a shell. -/
structure State where
  bindings : List (Text × Variable) := []
  functions : List (Text × Command) := []
  /-- What the shell calls itself. -/
  name : Text
  arguments : List Text := []
  /-- How the last command ended; zero if well. -/
  status : Nat := 0
  /-- How the last substitution ended, if there was one in the command that is being run. -/
  substituted : Option Nat := none
  /-- The line of the command that is being run. -/
  line : Nat := 1
  /-- The number of the shell's process. -/
  process : Nat := 0
  /-- The process begun last in the background. -/
  lastChild : Option Nat := none
  /-- What to do about signals, by their names, and at the end. -/
  traps : List (Text × Text) := []
  switches : List Switch := []
  /-- Failures are being looked at, so that they are no reason to leave. -/
  isTesting : Bool := false
  /-- How many repetitions there are to break out of. -/
  depth : Nat := 0
  /-- The variables that the functions being run have changed for their own time, innermost first. -/
  saved : List (List (Text × Option Variable)) := []

/-- How a job is left early. -/
inductive Leave
  /-- The shell ends. -/
  | shell
  /-- The function, or the script that is being read, ends. -/
  | function
  /-- So many repetitions end. -/
  | loops (count : Nat)
  /-- The innermost but so many repetition goes on with its next turn. -/
  | turn (count : Nat)
deriving DecidableEq, Repr

/-- Something that a shell does. -/
def Job (α : Type) : Type :=
  State → (Except Leave α → State → Program) → Program

namespace Job

variable {α β : Type}

/-- Does nothing. -/
def pure (a : α) : Job α := fun s next => next (.ok a) s

/-- Does one thing and then another, unless the first is left early. -/
def bind (t : Job α) (f : α → Job β) : Job β := fun s next =>
  t s fun result s =>
    match result with
    | .ok a => f a s next
    | .error leave => next (.error leave) s

instance : Monad Job where
  pure := pure
  bind := bind

/-- The state of the shell. -/
def state : Job State := fun s next => next (.ok s) s

/-- Changes the state of the shell. -/
def change (f : State → State) : Job Unit := fun s next => next (.ok ()) (f s)

/-- Leaves early. -/
def leave (how : Leave) : Job α := fun s next => next (.error how) s

/-- Does something and gives how it was left, if early. -/
def attempt (t : Job α) : Job (Except Leave α) := fun s next =>
  t s fun result s => next (.ok result) s

/-- Goes on as something that was attempted ended. -/
def resume (result : Except Leave α) : Job α := fun s next => next result s

/-- Asks the host. -/
def ask (c : Call) : Job c.Answer := fun s next => .call c fun a => next (.ok a) s

/-- Ends the process with the status of the last command. -/
def quit : Job α := fun s _ => .exit s.status.toUInt8

/-- Begins a child that does something and ends; gives its number. -/
def fork (child : Job Unit) : Job Nat := fun s next =>
  .fork (child s fun _ s => .exit s.status.toUInt8) fun number => next (.ok number) s

/-- The variables that are handed on to other programs. -/
def environment (s : State) : List (Bytes × Bytes) :=
  s.bindings.filterMap fun (name, v) =>
    if v.isExported then v.value.map fun value => (name.toBytes, value.toBytes) else none

/-- Turns to another program; gives an error number if that is impossible. -/
def execute (path name : Text) (arguments : List Text) : Job Nat := fun s next =>
  let invocation : Invocation :=
    { path := path.toBytes
      name := name.toBytes
      arguments := arguments.map Text.toBytes
      environment := environment s }
  .execute invocation fun e => next (.ok e) s

/-- Writes a text and tells whether that worked. -/
def put (stream : Nat) (text : Text) : Job Bool := fun s next =>
  Program.put stream text.toBytes fun isDone => next (.ok isDone) s

/-- Sets the status. -/
def finish (status : Nat) : Job Unit := change ({ · with status })

/-- Says something about the line that is being run. -/
def complain (text : Text) : Job Unit := do
  let s ← state
  let _ ← put 2 (s.name ++ [':', ' '] ++ Text.ofNat s.line ++ [':', ' '] ++ text ++ ['\n'])

/-- Says what is wrong and ends the shell. -/
def abort (text : Text) : Job α := do
  complain text
  finish 2
  leave .shell

/-- Reads from a stream until it ends, at most so many times, behind the parts read before. -/
def readAllUpTo (stream : Nat) : Nat → List Bytes → Job Bytes
  | 0, partsRev => return partsRev.reverse.flatten
  | n + 1, partsRev => do
    match ← ask (.read stream 65536) with
    | .ok [] => return partsRev.reverse.flatten
    | .ok bytes => readAllUpTo stream n (bytes :: partsRev)
    | .error _ => return partsRev.reverse.flatten

end Job

/-- More steps than any script gets to take. -/
def endless : Nat := Nat.pow 2 48

/-- Reads from a stream until it ends. -/
def Job.readAll (stream : Nat) : Job Bytes :=
  readAllUpTo stream endless []

namespace State

/-- A variable, if it is known. -/
def named? (s : State) (name : Text) : Option Variable :=
  s.bindings.lookup name

/-- The value of a variable, if it has one. -/
def value? (s : State) (name : Text) : Option Text :=
  (s.named? name).bind (·.value)

/-- The characters at which expansions are split. -/
def separators (s : State) : Text :=
  (s.value? (Text.ofString "IFS")).getD [' ', '\t', '\n']

/-- Sets what is known of a variable. -/
def withVariable (s : State) (name : Text) (v : Variable) : State :=
  { s with bindings := (name, v) :: s.bindings.filter (·.1 ≠ name) }

/-- Forgets a variable. -/
def withoutVariable (s : State) (name : Text) : State :=
  { s with bindings := s.bindings.filter (·.1 ≠ name) }

/-- Whether an option is on. -/
def has (s : State) (switch : Switch) : Bool :=
  s.switches.contains switch

/-- The value of a parameter that is not a list, if it has one. -/
def parameter? (s : State) (name : Text) : Option Text :=
  match name with
  | ['#'] => some (Text.ofNat s.arguments.length)
  | ['?'] => some (Text.ofNat s.status)
  | ['-'] => some (s.switches.map Switch.letter)
  | ['$'] => some (Text.ofNat s.process)
  | ['!'] => s.lastChild.map Text.ofNat
  | ['0'] => some s.name
  | name =>
    if Text.isNumeral name then
      if Text.toNat name = 0 then some s.name else s.arguments[Text.toNat name - 1]?
    else s.value? name

end State

/-- Sets the value of a variable, unless it is constant. -/
def Job.assign (name value : Text) : Job Unit := do
  let v := ((← state).named? name).getD {}
  if v.isConstant then abort (name ++ Text.ofString ": is read only")
  else change (·.withVariable name { v with value := some value })

end Traversal.Shell
