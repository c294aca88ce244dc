import Traversal.Host

/-!
# The course of a host

A host moves by letting the process that is due first take one step: it ends, begins a child, turns to
another program, or gets the answer to a request.
-/

namespace Traversal.Host

/-- How the program of a file is found: the program, or an error number. -/
abbrev Launcher := Host → Invocation → Except Nat Program

/-- Answers a request to read. -/
def answerRead (h : Host) (p : Process) (stream limit : Nat) : Except Nat Bytes × Host :=
  match p.streams.lookup stream with
  | some .null => (.ok [], h)
  | some .zero => (.ok (List.replicate limit 0), h)
  | some (.reading pipe) =>
    let contents := h.pipe pipe
    let bytes := contents.content.take limit
    (.ok bytes, { h with pipes := assign pipe (contents.drain bytes.length) h.pipes })
  | some (.file opening) => h.readOpening opening limit
  | _ => (.error 9, h)

/-- Answers a request to write. -/
def answerWrite (h : Host) (p : Process) (stream : Nat) (bytes : Bytes) : Except Nat Nat × Host :=
  match p.streams.lookup stream with
  | none => (.error 9, h)
  | some handle =>
    if h.isBroken handle then (.error 32, h)
    else
      match handle with
      | .writing pipe =>
        let portion := bytes.take (h.pipe pipe).room
        (.ok portion.length, h.fill pipe portion)
      | .outlet outlet => (.ok bytes.length, { h with emittedRev := (outlet, bytes) :: h.emittedRev })
      | .file opening => h.writeOpening opening bytes
      | .reading _ => (.error 9, h)
      | _ => (.ok bytes.length, h)

/-- Answers a request to open a file. -/
def answerOpen (h : Host) (p : Process) (path : Bytes) (mode : OpenMode) : Except Nat Nat × Host :=
  match h.openFor p path mode with
  | .error e => (.error e, h)
  | .ok (h, handle) =>
    let stream := freeNumber p 0
    (.ok stream, h.connect p.number stream handle)

/-- Answers a request for a pipe. -/
def answerPipe (h : Host) (p : Process) : (Nat × Nat) × Host :=
  let pipe := h.nextPipe
  let input := freeNumber p 0
  let output := freeNumber { p with streams := (input, .null) :: p.streams } 0
  ((input, output),
    ({ h with nextPipe := pipe + 1 }.connect p.number input (.reading pipe)).connect p.number output
      (.writing pipe))

/-- Answers a request to wait for a child, whose status is collected. -/
def answerAwait (h : Host) (p : Process) (child? : Option Nat) : Farewell × Host :=
  match (h.children p.number child?).findSome? fun c => c.status?.map fun status => (c, status) with
  | some (c, status) =>
    (.ended c.number status, { h with processes := h.processes.filter (·.number ≠ c.number) })
  | none =>
    match p.caught with
    | signal :: _ => (.interrupted signal, h)
    | [] => (.childless, h)

/-- Answers a request. -/
def answer (h : Host) (p : Process) : (c : Call) → c.Answer × Host
  | .read stream limit => h.answerRead p stream limit
  | .write stream bytes => h.answerWrite p stream bytes
  | .openFile path mode => h.answerOpen p path mode
  | .close stream => ((), h.disconnect p.number stream)
  | .copyTo stream target =>
    match p.streams.lookup stream with
    | some handle => (true, h.connect p.number target handle)
    | none => (false, h)
  | .save stream =>
    match p.streams.lookup stream with
    | some handle =>
      let target := freeNumber p 10
      (some target, h.connect p.number target handle)
    | none => (none, h)
  | .pipe => h.answerPipe p
  | .sleep duration => ((), h.change p.number fun p => { p with resumes := p.resumes + duration })
  | .await child? _ => h.answerAwait p child?
  | .send target signal => ((h.process? target).isSome, h.signal target signal)
  | .dispose signal disposition =>
    ((), h.change p.number fun p =>
      { p with dispositions := assign signal disposition p.dispositions })
  | .disposition signal => (p.disposition signal, h)
  | .caught => (p.caught, h.change p.number ({ · with caught := [] }))
  | .identity => (p.number, h)
  | .inspect path => (h.kind? p path, h)

/-- A process goes on with a program. -/
def proceed (h : Host) (number : Nat) (program : Program) : Host :=
  h.change number fun p =>
    match p.life with
    | .active _ => { p with life := .active program }
    | .over _ => p

/-- Whether a request kills the process that makes it: nobody reads what it writes, and it has not said
that it does not mind. -/
def isFatal (h : Host) (p : Process) : Call → Bool
  | .write stream _ =>
    p.disposition .pipe = .default
      && (p.streams.lookup stream).any fun handle => h.isBroken handle
  | _ => false

/-- A process takes a step.  Neither a child nor another program keeps what was done about caught
signals. -/
def stepProcess (launch : Launcher) (h : Host) (p : Process) (program : Program) : Host :=
  let delay (h : Host) (time : Nat) : Host :=
    h.change p.number fun p => { p with resumes := max p.resumes h.now + time }
  match program with
  | .exit code => h.finish p.number (.exited code)
  | .call c next =>
    if h.isFatal p c then h.finish p.number (signalStatus .pipe)
    else
      let (a, h') := (delay h callTime).answer p c
      h'.proceed p.number (next a)
  | .fork child next =>
    let number := h.nextProcess
    let h := delay { h with nextProcess := number + 1 } forkTime
    let h := h.proceed p.number (next number)
    { h with
      processes := h.processes ++
        [{ p with
            number
            parent := p.number
            life := .active child
            dispositions := p.dispositions.filter (·.2 ≠ .caught)
            caught := []
            resumes := h.now + forkTime }] }
  | .execute invocation otherwise =>
    let h := delay h executeTime
    match launch h invocation with
    | .ok program =>
      (h.change p.number fun p =>
        { p with
          streams := p.streams.filter (·.1 < 10)
          dispositions := p.dispositions.filter (·.2 ≠ .caught) }).proceed p.number program
    | .error e => h.proceed p.number (otherwise e)

/-- Lets the process that is due first take a step; none if no process can move. -/
def step (launch : Launcher) (h : Host) : Option Host :=
  match h.next? with
  | some (time, p) =>
    match p.life with
    | .active program => some (stepProcess launch { h with now := time } p program)
    | .over _ => none
  | none => none

/-- The time at which a process is due. -/
def nextTime? (h : Host) : Option Nat :=
  h.next?.map (·.1)

end Traversal.Host
