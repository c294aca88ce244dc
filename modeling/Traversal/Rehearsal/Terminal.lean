import Traversal.CommandLine.Reader
import Traversal.Rehearsal
import Traversal.Terminal

/-!
# Rehearsals at a terminal

The whole program, from its command line to its exit code, with an engine that runs on a simulated host.
-/

namespace Traversal

open CommandLine

/-- What a program leaves behind. -/
structure Report where
  code : Nat
  stdout : Bytes := []
  stderr : Bytes := []
deriving DecidableEq, Repr

/-- A terminal and the host of its engine. -/
structure TerminalRehearsal where
  terminal : Terminal
  /-- The session of the terminal among the things that concern it. -/
  rehearsal : Rehearsal
  /-- When the session is cancelled. -/
  timeout? : Option Nat := none
  /-- The number of lines of output after which the user interrupts the program. -/
  interrupt? : Option Nat := none

namespace TerminalRehearsal

/-- The session goes on as it is among the things that concern it. -/
def withRehearsal (t : TerminalRehearsal) (rehearsal : Rehearsal) : TerminalRehearsal :=
  { t with rehearsal, terminal := { t.terminal with session := rehearsal.session } }

/-- A terminal at which a program has been started. -/
def start (arguments : Arguments) (config : Config) (host : Host) (input : Bytes)
    (interrupt? : Option Nat) : TerminalRehearsal :=
  let created := Terminal.create "" config
  let arrivals := Arrival.data input :: (if interrupt?.isSome then [] else [.eof])
  let terminal := { created with input := arrivals.foldl Source.arrive created.input }
  let rehearsal := { Rehearsal.create "" config host with session := terminal.session }
  let timeout? := arguments.timeout?.map (· * 1000000)
  let ready : TerminalRehearsal := { terminal, rehearsal, timeout?, interrupt? }
  ready.withRehearsal (rehearsal.start arguments.role arguments.wantsDebug)

/-- The caller cancels the session. -/
def cancel (t : TerminalRehearsal) : TerminalRehearsal :=
  t.withRehearsal (t.rehearsal.tell .cancel)

/-- The user interrupts the program after enough lines, and closes its input. -/
def interrupt (t : TerminalRehearsal) : TerminalRehearsal :=
  match t.interrupt? with
  | some count =>
    if count ≤ t.terminal.output.countP (· = Bytes.newline) then
      let t := { t with interrupt? := none }.cancel
      { t with terminal := { t.terminal with input := t.terminal.input.arrive .eof } }
    else t
  | none => t

/-- The session is cancelled when its time is up. -/
def expire (t : TerminalRehearsal) : TerminalRehearsal :=
  if t.timeout?.any (· ≤ t.rehearsal.host.now) then { t with timeout? := none }.cancel else t

/-- Lets one task move; none if all of them wait. -/
def advance? (t : TerminalRehearsal) : Option TerminalRehearsal :=
  t.terminal.advance?.map fun terminal =>
    let moved := { t.rehearsal with session := terminal.session }.inform
    let moved := if moved.isKilled = t.rehearsal.isKilled then moved else moved.report
    ({ t with terminal }.withRehearsal moved).interrupt

/-- Lets whatever is due next happen; none if nothing is. -/
def proceed (t : TerminalRehearsal) : Option TerminalRehearsal :=
  match t.rehearsal.nextTime?, t.timeout? with
  | some time, some timeout =>
    some (t.withRehearsal
      (if time ≤ timeout then t.rehearsal.proceed else t.rehearsal.moveTo timeout)).expire
  | some _, none => some (t.withRehearsal t.rehearsal.proceed)
  | none, some timeout => some (t.withRehearsal (t.rehearsal.moveTo timeout)).expire
  | none, none => none

/-- Plays until everything has been written, in at most so many steps. -/
def playFor : Nat → TerminalRehearsal → TerminalRehearsal
  | 0, t => t
  | n + 1, t =>
    match t.advance? with
    | some t => playFor n t
    | none =>
      if t.terminal.result?.isSome then t
      else
        match t.proceed with
        | some t => playFor n t
        | none => t

/-- What the program leaves behind when the session is over. -/
def report (t : TerminalRehearsal) (wantsDebug : Bool) : Report :=
  let stdout := t.terminal.output
  let diagnostics := if wantsDebug then t.terminal.session.diagnostics.written else []
  match t.terminal.result? with
  | some (.connected _) => { code := 0, stdout, stderr := diagnostics }
  | some (.failed failure) =>
    { code := 1, stdout, stderr := diagnostics ++ Bytes.ofText (lastWords failure) }
  | none => { code := 1, stdout, stderr := diagnostics }

/-- What the program leaves behind when it is called with some arguments on a host, has some input, and is
interrupted after so many lines of output. -/
def perform (host : Host) (arguments : List String) (input : Bytes) (interrupt? : Option Nat) : Report :=
  match CommandLine.read arguments with
  | .help => { code := 0, stdout := Bytes.ofText helpText }
  | .version => { code := 0, stdout := Bytes.ofText versionText }
  | .refused complaint => { code := 2, stderr := Bytes.ofText complaint.report }
  | .run arguments =>
    let content (path : String) := (host.files.content (Bytes.ofText path)).mapError IoFault.os
    match arguments.configure content with
    | .error failure => { code := 1, stderr := Bytes.ofText (lastWords failure) }
    | .ok config =>
      ((start arguments config host input interrupt?).expire.playFor Rehearsal.patience).report
        arguments.wantsDebug

end TerminalRehearsal
end Traversal
