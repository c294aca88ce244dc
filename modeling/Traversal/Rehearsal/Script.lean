import Traversal.Rehearsal

/-!
# Scripted rehearsals

A script says, action by action, what those around a session do: they start it, submit messages, wait for
something, cancel.  Between two actions the tasks of the session run until all of them wait.
-/

namespace Traversal

/-- How a session is started. -/
inductive Rehearsal.Opening
  /-- In a role, by a caller who can cancel it. -/
  | cancellable (role : Role)
  /-- In a role, by a caller who cannot cancel it. -/
  | plain (role : Role)
deriving DecidableEq, Repr

/-- Something that those around a session do. -/
inductive Rehearsal.Action
  | start (opening : Rehearsal.Opening)
  | submit (payload : Bytes)
  | awaitSubmit (ticket : Nat)
  | isPending (ticket : Nat)
  /-- Waits until so many messages have been passed on. -/
  | awaitSent (count : Nat)
  /-- Waits so many milliseconds. -/
  | sleep (duration : Nat)
  | isRunning
  | cancel
  /-- Waits until the session is over. -/
  | finish
  /-- Throws the session away unstarted. -/
  | discard
  /-- Stops waiting for the outcome for good. -/
  | abandon
  | isSinkReleased
deriving DecidableEq, Repr

/-- What becomes of an action. -/
inductive Rehearsal.Response
  | done
  | ticket (number : Nat)
  | flag (value : Bool)
  /-- What became of a message; nothing if it was written. -/
  | resolved (failure? : Option Failure)
  | over (outcome : Outcome)
  /-- What was waited for did not happen. -/
  | timeout
deriving DecidableEq, Repr

/-- A rehearsal that follows a script. -/
structure ScriptedRehearsal where
  rehearsal : Rehearsal
  /-- Whether somebody listens to the engine's diagnostics. -/
  wantsDebug : Bool := false
  /-- Whether the session listens to the caller's wish to cancel. -/
  isCancellable : Bool := false
  /-- Whether the caller has wished to cancel. -/
  isCancelled : Bool := false

namespace ScriptedRehearsal

open Rehearsal

/-- How long a script waits for something, in microseconds. -/
def patience : Nat := 4000000

/-- A session before anything happens.  There is somebody beside the session itself who can submit
messages. -/
def create (name : String) (config : Config) (wantsDebug : Bool) (sinkFaults : List SinkEvent) :
    ScriptedRehearsal :=
  let r := Rehearsal.create name config Shell.Tool.host
  { rehearsal := sinkFaults.foldl (fun r event => r.tell (.diagnostics event)) (r.tell .share)
    wantsDebug }

/-- Something happens around the session. -/
def tell (s : ScriptedRehearsal) (event : Session.Event) : ScriptedRehearsal :=
  { s with rehearsal := (s.rehearsal.tell event).settle }

/-- The session is started. -/
def start (s : ScriptedRehearsal) (opening : Opening) : ScriptedRehearsal :=
  let (role, isCancellable) :=
    match opening with
    | .cancellable role => (role, true)
    | .plain role => (role, false)
  let r := s.rehearsal.start role s.wantsDebug
  let r := if isCancellable && s.isCancelled then r.tell .cancel else r
  { s with rehearsal := r.settle, isCancellable }

/-- Waits for something that a session may show. -/
def await {α : Type} (s : ScriptedRehearsal) (look : Session → Option α) (reply : α → Response) :
    ScriptedRehearsal × Response :=
  let r := (s.rehearsal.play (fun r => (look r.session).isSome) patience).1
  ({ s with rehearsal := r }, ((look r.session).map reply).getD .timeout)

/-- Does what an action says. -/
def act (s : ScriptedRehearsal) : Action → ScriptedRehearsal × Response
  | .start opening => (s.start opening, .done)
  | .submit payload =>
    (s.tell (.submit payload), .ticket s.rehearsal.session.mailbox.nextTicket)
  | .awaitSubmit ticket => s.await (·.mailbox.outcome? ticket) .resolved
  | .isPending ticket =>
    (s, .flag (s.rehearsal.session.mailbox.outcome? ticket).isNone)
  | .awaitSent count =>
    s.await (fun session => if count ≤ session.sentRev.length then some () else none) fun _ => .done
  | .sleep duration =>
    ({ s with rehearsal := (s.rehearsal.play (fun _ => false) (duration * 1000)).1 }, .done)
  | .isRunning => (s, .flag s.rehearsal.session.isAwaited)
  | .cancel =>
    let s := { s with isCancelled := true }
    (if s.isCancellable then s.tell .cancel else s, .done)
  | .finish => s.await (·.outcome?) .over
  | .discard => (s.tell .discard, .done)
  | .abandon => (s.tell .abandon, .done)
  | .isSinkReleased =>
    (s, .flag (s.wantsDebug && s.rehearsal.session.hasReleased .diagnostics))

/-- Follows a script and tells what becomes of each action. -/
def run (s : ScriptedRehearsal) : List Action → ScriptedRehearsal × List Response
  | [] => (s, [])
  | action :: rest =>
    let (s, reply) := s.act action
    let (s, replies) := run s rest
    (s, reply :: replies)

end ScriptedRehearsal
end Traversal
