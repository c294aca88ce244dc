import Traversal.Engine.Invocation
import Traversal.Engine.Prepared
import Traversal.Session.Step
import Traversal.Shell.Tool

/-!
# Rehearsals

A rehearsal plays a session against an engine that runs on a simulated host.  Whatever the session does to
its ends of the streams reaches the engine, and whatever the engine does reaches the session.  The tasks of
the session take no time; when all of them wait, the clock moves on to whatever is due next, on the host or
in the session.
-/

namespace Traversal

open Host

/-- A session, the host of its engine, and how far each has heard of the other. -/
structure Rehearsal where
  session : Session
  host : Host
  /-- The engine's executable, once it has been got ready. -/
  prepared : Option Engine.Prepared := none
  /-- Whether the engine was started. -/
  isEngineStarted : Bool := false
  /-- How many bytes of the session have reached the engine's standard input. -/
  fed : Nat := 0
  /-- The room in the engine's standard input that the session knows of. -/
  room : Nat := pipeCapacity
  /-- The session knows that nobody reads the engine's standard input any more. -/
  isFeedBroken : Bool := false
  /-- The outlets of which the session knows the end. -/
  ended : List Outlet := []
  /-- The host knows that the engine has been told to die. -/
  isKilled : Bool := false

namespace Rehearsal

/-- The number of the engine's process. -/
def engine : Nat := 2

/-- The pipe that is the engine's standard input. -/
def feed : Nat := 0

/-- A rehearsal of a session that has not been started. -/
def create (name : String) (config : Config) (host : Host) : Rehearsal :=
  { session := Session.create name config
    host := { host with pipes := [(feed, {})], nextPipe := feed + 1, fed := [feed] } }

/-- Something happens around the session; nothing does if it cannot. -/
def tell (r : Rehearsal) (event : Session.Event) : Rehearsal :=
  match r.session.step (.world event) with
  | some session => { r with session }
  | none => r

/-! ### From the session to the host -/

/-- The engine gets what the session has written. -/
def passInput (r : Rehearsal) : Rehearsal :=
  let k := r.session.stdin
  if k.count = r.fed then r
  else
    let bytes := (k.writtenRev.take (k.count - r.fed)).reverse
    { r with host := r.host.fill feed bytes, fed := k.count, room := r.room - bytes.length }

/-- The host learns what the session has let go of. -/
def passReleases (r : Rehearsal) : Rehearsal :=
  let s := r.session
  let deafen (isReleased : Bool) (outlet : Outlet) (deaf : List Outlet) : List Outlet :=
    if isReleased && !deaf.contains outlet then outlet :: deaf else deaf
  { r with
    host :=
      { r.host with
        fed := if s.hasReleased .stdin then [] else r.host.fed
        deaf := deafen (s.hasReleased .stdout) .stdout
          (deafen (s.hasReleased .stderr) .stderr r.host.deaf) } }

/-- The file of the engine goes when the session does not need it any more. -/
def passBinary (r : Rehearsal) : Rehearsal :=
  match r.prepared with
  | some prepared =>
    if r.session.hasReleased .binary then
      { r with host := prepared.discard r.host, prepared := none }
    else r
  | none => r

/-- The engine dies when the session says so. -/
def passKill (r : Rehearsal) : Rehearsal :=
  if r.session.isKilled && !r.isKilled then
    { r with host := r.host.signal engine .kill, isKilled := true }
  else r

/-- The host learns what the session has done. -/
def inform (r : Rehearsal) : Rehearsal :=
  r.passInput.passReleases.passBinary.passKill

/-! ### From the host to the session -/

/-- The event of something arriving from an outlet. -/
def arrival (outlet : Outlet) (a : Arrival) : Session.Event :=
  match outlet with
  | .stdout => .stdout a
  | .stderr => .stderr a

/-- The session gets what the engine has written. -/
def passOutput (r : Rehearsal) : Rehearsal :=
  r.host.emittedRev.reverse.foldl (fun r (outlet, bytes) => r.tell (arrival outlet (.data bytes)))
    { r with host := { r.host with emittedRev := [] } }

/-- The session learns that nobody writes to an outlet any more. -/
def passEnd (r : Rehearsal) (outlet : Outlet) : Rehearsal :=
  if r.isEngineStarted && !r.ended.contains outlet && !r.host.holds (.outlet outlet) then
    { r with ended := outlet :: r.ended }.tell (arrival outlet .eof)
  else r

/-- The session learns how much the engine's standard input can take, and whether anybody reads it. -/
def passRoom (r : Rehearsal) : Rehearsal :=
  let room := (r.host.pipe feed).room
  let r := if room = r.room then r else { r with room }.tell (.stdin (.budget (some room)))
  if r.isEngineStarted && !r.isFeedBroken && !r.host.holds (.reading feed) then
    { r with isFeedBroken := true }.tell (.stdin (.broken .brokenPipe))
  else r

/-- The session learns that the engine has ended. -/
def passExit (r : Rehearsal) : Rehearsal :=
  match (r.host.process? engine).bind (·.status?) with
  | some status => if r.session.child = .running then r.tell (.exit status) else r
  | none => r

/-- The session learns what has happened on the host. -/
def report (r : Rehearsal) : Rehearsal :=
  let r := r.tell (.elapse (r.host.now - r.session.now))
  (((r.passOutput.passEnd .stdout).passEnd .stderr).passRoom).passExit

/-! ### The course of a rehearsal -/

/-- The length that an argument must not reach. -/
def argumentLimit : Nat := 131072

/-- Starts an engine with streams of its own; fails with what the host says. -/
def launch (h : Host) (path : Bytes) (arguments : List Bytes) (streams : List (Nat × Handle)) :
    Except IoFault Host :=
  if (path :: arguments).any (·.contains 0) then .error (.described "nul byte found in provided data")
  else
    let located := Shell.Tool.locate h path
    let program := located.bind fun located =>
      if arguments.any (argumentLimit ≤ ·.length) then .error 7
      else Shell.Tool.launch h { path := located, name := path, arguments }
    match program with
    | .ok program =>
      .ok { h with
        processes := h.processes ++
          [{ number := engine
             parent := 0
             life := .active program
             resumes := h.now + executeTime
             streams }] }
    | .error e => .error (.os e)

/-- The streams of an engine. -/
def streams : List (Nat × Handle) :=
  [(0, .reading feed), (1, .outlet .stdout), (2, .outlet .stderr)]

/-- Starts the session in a role, and its engine if that can be set up. -/
def start (r : Rehearsal) (role : Role) (wantsDebug : Bool) : Rehearsal :=
  if r.session.stage = .ready then
    let config := r.session.config
    let (host, prepared) := Engine.Prepared.make r.host config.binary
    let arguments := (Engine.arguments role config.extraArgs wantsDebug).map Bytes.ofText
    match launch host prepared.path arguments streams with
    | .ok host =>
      ({ r with host, prepared := some prepared, isEngineStarted := true }.tell (.start none)).tell
        (.stdin (.budget (some pipeCapacity)))
    | .error fault => r.tell (.start (some (.setup .spawn fault)))
  else r

/-- Lets one task of the session move; none if all of them wait.  What this does to the engine shows when
the engine moves next, except that its end shows at once. -/
def advance? (r : Rehearsal) : Option Rehearsal :=
  r.session.advance?.map fun session =>
    let moved := { r with session }.inform
    if moved.isKilled = r.isKilled then moved else moved.report

/-- The time at which something is due on the host or in the session. -/
def nextTime? (r : Rehearsal) : Option Nat :=
  match r.host.nextTime?, r.session.alarm? with
  | some a, some b => some (min a b)
  | some a, none => some a
  | none, b => b

/-- Moves the clock. -/
def moveTo (r : Rehearsal) (time : Nat) : Rehearsal :=
  { r with host := { r.host with now := max r.host.now time } }.report

/-- Lets whatever is due next happen. -/
def proceed (r : Rehearsal) : Rehearsal :=
  match r.host.nextTime?, r.session.alarm? with
  | some a, some b => if a ≤ b then moveHost r else r.moveTo b
  | some _, none => moveHost r
  | none, some b => r.moveTo b
  | none, none => r
where
  /-- Lets a process move. -/
  moveHost (r : Rehearsal) : Rehearsal :=
    match r.host.step Shell.Tool.launch with
    | some host => { r with host }.report
    | none => r

/-- Plays on until a condition is met or a time has come, in at most so many steps; tells whether the
condition is met.  A condition is only looked at when all tasks of the session wait. -/
def playFor (isMet : Rehearsal → Bool) (deadline : Nat) : Nat → Rehearsal → Rehearsal × Bool
  | 0, r => (r, false)
  | n + 1, r =>
    match r.advance? with
    | some r => playFor isMet deadline n r
    | none =>
      if isMet r then (r, true)
      else
        match r.nextTime? with
        | some time =>
          if time ≤ deadline then playFor isMet deadline n r.proceed else (r.moveTo deadline, false)
        | none => (r.moveTo deadline, false)

/-- More steps than a rehearsal takes. -/
def patience : Nat := Nat.pow 2 40

/-- Plays on until a condition is met, for so many microseconds at most; tells whether it is met. -/
def play (r : Rehearsal) (isMet : Rehearsal → Bool) (duration : Nat) : Rehearsal × Bool :=
  playFor isMet (r.host.now + duration) patience r

/-- Plays on until all tasks of the session wait. -/
def settle (r : Rehearsal) : Rehearsal :=
  (r.play (fun _ => true) 0).1

end Rehearsal
end Traversal
