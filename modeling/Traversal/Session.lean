import Traversal.Session.Controller
import Traversal.Session.Mailbox
import Traversal.Task.Relay
import Traversal.Task.Router
import Traversal.Task.Watcher

/-!
# Sessions

A session is one negotiation, carried out by an engine.  Four tasks deal with the engine, each with one
thing of its own: the router with its standard output, the relay with its diagnostics, the pump with its
standard input, and the watcher with the process.  The controller decides on the outcome.  They share a
result slot, a queue of notices, a mailbox and the knowledge that the session is being shut down.

This module holds the state of a session; how it changes is the matter of `Traversal.Session.Step`.
-/

namespace Traversal

/-- How far a session has come. -/
inductive Session.Stage
  /-- It has not been started. -/
  | ready
  | started
  /-- It was thrown away before it was started. -/
  | discarded
  /-- It was started, but its engine could not be set up. -/
  | refused (failure : Failure)
deriving DecidableEq, Repr

/-- What a session lets go of when it does not need it any more. -/
inductive Session.Asset
  | stdin
  | stdout
  | stderr
  /-- The sink for the engine's diagnostics. -/
  | diagnostics
  /-- The file that the engine was started from. -/
  | binary
deriving DecidableEq, Repr

/-- A session and the ends of the streams that it holds.  Times are in microseconds. -/
structure Session where
  config : Config
  mailbox : Mailbox
  /-- Where the engine's diagnostics go. -/
  diagnostics : Sink := {}
  stage : Session.Stage := .ready
  now : Nat := 0
  isCancelled : Bool := false
  isShutdown : Bool := false
  child : Engine.Child := .running
  /-- The watcher has told the engine to die. -/
  isKilled : Bool := false
  stdin : Sink := {}
  stdout : Source := {}
  stderr : Source := {}
  router : Router
  relay : Relay := {}
  pump : Pump := {}
  watcher : Watcher
  controller : Controller
  slot : Slot := .vacant
  notices : List Notice := []
  /-- Whether the controller listens to notices. -/
  hasListener : Bool := true
  /-- The tasks that may still send a notice. -/
  senders : List Activity := Activity.all
  /-- The signaling messages passed on, latest first. -/
  sentRev : List Bytes := []
  released : List Session.Asset := []

namespace Session

/-- A session that has not been started; it holds a handle of its own mailbox until it is. -/
def create (name : String) (config : Config) : Session :=
  let grace := config.shutdownGrace * 1000
  { config
    mailbox := { session := name, capacity := config.inboundQueueSize }
    router := Router.start config.maxLineBytes
    watcher := { grace }
    controller := { grace } }

/-- The signaling messages passed on, in order. -/
def sent (s : Session) : List Bytes :=
  s.sentRev.reverse

/-- Whether the session has let go of something. -/
def hasReleased (s : Session) (asset : Asset) : Bool :=
  s.released.contains asset

/-- Lets go of something. -/
def release (s : Session) (asset : Asset) : Session :=
  { s with released := asset :: s.released }

/-- Whether all tasks have ended. -/
def areTasksDone (s : Session) : Bool :=
  s.router.isDone && s.relay.isDone && s.pump.isDone && s.watcher.isDone

/-- What the controller can look at. -/
def view (s : Session) : Controller.View :=
  { now := s.now
    slot := s.slot
    notices := s.notices
    hasSenders := !s.senders.isEmpty
    isCancelled := s.isCancelled
    areTasksDone := s.areTasksDone }

/-- How the session ended, once it is over for whoever started it. -/
def outcome? (s : Session) : Option Outcome :=
  match s.stage with
  | .refused failure => some (.failed failure)
  | .started => s.controller.outcome?
  | _ => none

end Session
end Traversal
