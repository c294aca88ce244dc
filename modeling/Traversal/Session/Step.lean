import Traversal.Session

/-!
# The course of a session

A session moves by turns.  In a turn one of its tasks takes one step, or the world around it does
something: the engine writes or ends, a message is submitted, the caller cancels, time passes.  Every
order of turns is possible, and a list of turns is a course of the session.
-/

namespace Traversal.Session

/-- Something that happens around a session. -/
inductive Event
  /-- The session is started, and its engine is running unless it could not be set up. -/
  | start (failure? : Option Failure)
  /-- The session is thrown away unstarted. -/
  | discard
  /-- Whoever waits for the outcome goes away. -/
  | abandon
  | cancel
  /-- A message is submitted. -/
  | submit (payload : Bytes)
  /-- One more can submit messages. -/
  | share
  /-- One less can submit messages. -/
  | part
  /-- Something reaches the engine's standard output. -/
  | stdout (arrival : Arrival)
  /-- Something reaches the engine's diagnostics. -/
  | stderr (arrival : Arrival)
  | stdin (event : SinkEvent)
  | diagnostics (event : SinkEvent)
  /-- The engine ends. -/
  | exit (status : Engine.WaitStatus)
  /-- So much time passes. -/
  | elapse (duration : Nat)
deriving DecidableEq, Repr

/-- Whose turn it is. -/
inductive Turn
  | router
  | relay
  | pump
  | watcher (prefersShutdown : Bool)
  | controller
  | world (event : Event)
deriving DecidableEq, Repr

/-- Puts a notice into the queue, if somebody listens; none if there is no room. -/
def post (s : Session) (activity : Activity) (failure? : Option Failure) : Option Session :=
  if !s.hasListener then some s
  else if s.notices.length < s.config.noticeQueueSize then
    some { s with notices := s.notices ++ [⟨activity, failure?⟩] }
  else none

/-- A task will send no more notices. -/
def silence (s : Session) (activity : Activity) : Session :=
  { s with senders := s.senders.erase activity }

/-- The router takes a step. -/
def stepRouter (s : Session) : Option Session := do
  let move ← s.router.step s.isShutdown s.stdout
  let s := { s with router := move.router, stdout := move.stdout }
  match move.act with
  | .inner => some s
  | .forward message => some { s with sentRev := message :: s.sentRev }
  | .deliver t => some { s with slot := s.slot.deliver t }
  | .post failure? => s.post .router failure?
  | .release .stdout => some (s.release .stdout)
  | .release .notices => some (s.silence .router)
  | .release .slot => some { s with slot := s.slot.release }

/-- The relay takes a step. -/
def stepRelay (s : Session) : Option Session := do
  let move ← s.relay.step s.isShutdown s.stderr s.diagnostics
  let s := { s with relay := move.relay, stderr := move.stderr, diagnostics := move.sink }
  match move.act with
  | .inner => some s
  | .post failure? => s.post .relay failure?
  | .release .sink => some (s.release .diagnostics)
  | .release .notices => some (s.silence .relay)
  | .release .stderr => some (s.release .stderr)

/-- The pump takes a step. -/
def stepPump (s : Session) : Option Session := do
  let m := s.mailbox
  let move ← s.pump.step s.isShutdown m.queue.head? (0 < m.handles) s.stdin
  let s := { s with pump := move.pump, stdin := move.stdin }
  match move.act with
  | .inner => some s
  | .take => some { s with mailbox := m.take }
  | .answer ticket failure? => some { s with mailbox := m.resolve ticket failure? }
  | .release .stdin => some (s.release .stdin)
  | .release .queue => some { s with mailbox := m.close }

/-- The watcher takes a step. -/
def stepWatcher (s : Session) (prefersShutdown : Bool) : Option Session := do
  let move ← s.watcher.step s.isShutdown prefersShutdown s.now s.child
  let s := { s with watcher := move.watcher, child := move.child }
  match move.act with
  | .inner => some s
  | .kill => some { s with isKilled := true }
  | .post failure? => s.post .processWait failure?
  | .release .notices => some (s.silence .processWait)
  | .release .child => some s

/-- Nobody listens to notices any more. -/
def leave (s : Session) : Session :=
  { s with notices := [], hasListener := false }

/-- The controller takes a step. -/
def stepController (s : Session) : Option Session := do
  let move ← s.controller.step s.view
  let s := { s with controller := move.controller }
  match move.act with
  | .inner => some s
  | .take => some { s with notices := s.notices.tail }
  | .stop => some { s with isShutdown := true }
  | .leave => some s.leave
  | .clear => some ({ s with slot := s.slot.abandon }.release .binary)

/-- The session is over before any task was started. -/
def forgo (s : Session) (stage : Stage) : Session :=
  { s with stage, mailbox := s.mailbox.part.close }.release .diagnostics

/-- Whoever waits for the outcome goes away; the tasks are told to stop. -/
def abandon (s : Session) : Session :=
  { s.leave with
    slot := s.slot.abandon
    isShutdown := true
    controller := { s.controller with phase := .abandoned } }.release .binary

/-- Whether somebody waits for the outcome. -/
def isAwaited (s : Session) : Bool :=
  s.stage = .started && s.controller.phase ≠ .abandoned && s.outcome?.isNone

/-- The world does something; none if that cannot happen. -/
def meet (s : Session) : Event → Option Session
  | .start failure? =>
    if s.stage = .ready then
      match failure? with
      | some failure => some (s.forgo (.refused failure))
      | none => some { s with stage := .started, mailbox := s.mailbox.part }
    else none
  | .discard => if s.stage = .ready then some (s.forgo .discarded) else none
  | .abandon => if s.isAwaited then some s.abandon else none
  | .cancel => some { s with isCancelled := true }
  | .submit payload =>
    if 0 < s.mailbox.handles then some { s with mailbox := s.mailbox.submit payload } else none
  | .share => if 0 < s.mailbox.handles then some { s with mailbox := s.mailbox.share } else none
  | .part => if 0 < s.mailbox.handles then some { s with mailbox := s.mailbox.part } else none
  | .stdout arrival =>
    some (if s.hasReleased .stdout then s else { s with stdout := s.stdout.arrive arrival })
  | .stderr arrival =>
    some (if s.hasReleased .stderr then s else { s with stderr := s.stderr.arrive arrival })
  | .stdin event => some { s with stdin := s.stdin.apply event }
  | .diagnostics event => some { s with diagnostics := s.diagnostics.apply event }
  | .exit status => some { s with child := s.child.finish status }
  | .elapse duration => some { s with now := s.now + duration }

/-- One turn; none if whoever's turn it is can do nothing. -/
def step (s : Session) : Turn → Option Session
  | .world event => s.meet event
  | turn =>
    if s.stage = .started then
      match turn with
      | .router => s.stepRouter
      | .relay => s.stepRelay
      | .pump => s.stepPump
      | .watcher prefersShutdown => s.stepWatcher prefersShutdown
      | _ => s.stepController
    else none

/-- A course of turns; none if one of them is impossible. -/
def run (s : Session) (turns : List Turn) : Option Session :=
  turns.foldlM step s

/-- The turns of a session's own tasks, in the order in which they are tried when there is no other
reason to prefer one. -/
def ownTurns : List Turn :=
  [.router, .relay, .watcher false, .pump, .controller]

/-- Lets one of the tasks move; none if all of them have to wait. -/
def advance? (s : Session) : Option Session :=
  ownTurns.findSome? s.step

/-- The next time at which a task that waits has something to do. -/
def alarm? (s : Session) : Option Nat :=
  if s.stage = .started then
    match s.watcher.deadline?, s.controller.deadline? with
    | some a, some b => some (min a b)
    | some a, none => some a
    | none, b => b
  else none

end Traversal.Session
