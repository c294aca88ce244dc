import Traversal.Host.Files
import Traversal.Host.Program

/-!
# A host for engines

An engine runs on a host: a machine with files, processes, pipes and signals.  This host is a value, with a
clock that only moves when something happens, so that what an engine does can be followed and repeated
exactly.

What the session and the engine share are three streams.  The engine's standard input is a pipe that the
session fills from outside.  Its standard output and its diagnostics are outlets: whatever is written to
them leaves the host.
-/

namespace Traversal

namespace Host

/-- A stream that leaves the host. -/
inductive Outlet
  | stdout
  | stderr
deriving DecidableEq, Repr

/-- What a process has under the number of a stream. -/
inductive Handle
  /-- Has nothing to read and takes everything. -/
  | null
  /-- Has zeros to read and takes everything. -/
  | zero
  | reading (pipe : Nat)
  | writing (pipe : Nat)
  | outlet (outlet : Outlet)
  /-- A file that has been opened, by the number of the opening. -/
  | file (opening : Nat)
deriving DecidableEq, Repr

/-- A file that has been opened. -/
structure Opening where
  path : Bytes
  position : Nat := 0
  mode : OpenMode
deriving DecidableEq, Repr

/-- What has been written to a pipe and not been read.  A pipe consists of pages, and a page is only used
again when all of it has been read. -/
structure Pipe where
  content : Bytes := []
  /-- How much of the first page has been read. -/
  start : Nat := 0
deriving DecidableEq, Repr

/-- How far a process has come. -/
inductive Life
  | active (program : Program)
  | over (status : Engine.WaitStatus)

/-- A process. -/
structure Process where
  number : Nat
  /-- The number of the process that waits for its end. -/
  parent : Nat
  life : Life
  /-- It does nothing before this time. -/
  resumes : Nat
  streams : List (Nat × Handle) := []
  /-- What it does about signals, where that is not the default. -/
  dispositions : List (Signal × Disposition) := []
  /-- The signals that it has caught and not asked for yet. -/
  caught : List Signal := []
  isStopped : Bool := false

end Host

/-- A host.  Times are in microseconds. -/
structure Host where
  now : Nat := 0
  processes : List Host.Process := []
  /-- The number of the next process. -/
  nextProcess : Nat := 100
  pipes : List (Nat × Host.Pipe) := []
  /-- The number of the next pipe. -/
  nextPipe : Nat := 0
  /-- The pipes that are filled from outside. -/
  fed : List Nat := []
  openings : List (Nat × Host.Opening) := []
  nextOpening : Nat := 0
  files : Host.Files := {}
  /-- The outlets that nobody reads any more. -/
  deaf : List Host.Outlet := []
  /-- What has been written to outlets, latest first. -/
  emittedRev : List (Host.Outlet × Bytes) := []

namespace Host

/-- The size of a page of a pipe. -/
def pageSize : Nat := 4096

/-- How much a pipe holds. -/
def pipeCapacity : Nat := 16 * pageSize

namespace Pipe

/-- How much more a pipe can take. -/
def room (p : Pipe) : Nat :=
  pipeCapacity - (p.start + p.content.length)

/-- Puts bytes into a pipe. -/
def fill (p : Pipe) (bytes : Bytes) : Pipe :=
  { p with content := p.content ++ bytes }

/-- What is left of a pipe when so many bytes have been read. -/
def drain (p : Pipe) (count : Nat) : Pipe :=
  let content := p.content.drop count
  { content, start := if content.isEmpty then 0 else (p.start + count) % pageSize }

end Pipe

/-- The time that a request takes. -/
def callTime : Nat := 4

/-- The time that it takes to begin a process. -/
def forkTime : Nat := 300

/-- The time that it takes to turn to another program. -/
def executeTime : Nat := 700

/-- Replaces the value of a key, or adds it. -/
def assign {α β : Type} [BEq α] (key : α) (value : β) (entries : List (α × β)) : List (α × β) :=
  (key, value) :: entries.filter fun entry => entry.1 != key

namespace Process

/-- The status of a process that has ended. -/
def status? (p : Process) : Option Engine.WaitStatus :=
  match p.life with
  | .active _ => none
  | .over status => some status

/-- What a process does about a signal. -/
def disposition (p : Process) (s : Signal) : Disposition :=
  (p.dispositions.lookup s).getD .default

/-- Whether a process has a stream open. -/
def holds (p : Process) (handle : Handle) : Bool :=
  p.streams.any fun entry => entry.2 = handle

end Process

/-! ### Looking at a host -/

/-- A process by its number. -/
def process? (h : Host) (number : Nat) : Option Process :=
  h.processes.find? (·.number = number)

/-- Whether some process has a stream open. -/
def holds (h : Host) (handle : Handle) : Bool :=
  h.processes.any (·.holds handle)

/-- Whether something may still be written to a pipe. -/
def hasWriter (h : Host) (pipe : Nat) : Bool :=
  h.fed.contains pipe || h.holds (.writing pipe)

/-- A pipe by its number. -/
def pipe (h : Host) (number : Nat) : Pipe :=
  (h.pipes.lookup number).getD {}

/-- Whether nobody reads what is written to a stream. -/
def isBroken (h : Host) : Handle → Bool
  | .writing pipe => !h.holds (.reading pipe)
  | .outlet outlet => h.deaf.contains outlet
  | _ => false

/-- The children of a process that match a wait. -/
def children (h : Host) (parent : Nat) (child? : Option Nat) : List Process :=
  h.processes.filter fun p => p.parent = parent && (child?.all (p.number = ·))

/-- Whether a process can be answered at once. -/
def isReady (h : Host) (p : Process) : Call → Bool
  | .read stream _ =>
    match p.streams.lookup stream with
    | some (.reading pipe) => !(h.pipe pipe).content.isEmpty || !h.hasWriter pipe
    | _ => true
  | .write stream _ =>
    match p.streams.lookup stream with
    | some (.writing pipe) => h.isBroken (.writing pipe) || 0 < (h.pipe pipe).room
    | _ => true
  | .await child? isInterruptible =>
    let cs := h.children p.number child?
    cs.isEmpty || cs.any (·.status?.isSome) || (isInterruptible && !p.caught.isEmpty)
  | _ => true

/-- The time at which a process moves next, if it can move. -/
def due? (h : Host) (p : Process) : Option Nat :=
  let isAble :=
    match p.life with
    | .over _ => false
    | .active (.call c _) => h.isReady p c
    | .active _ => true
  if isAble && !p.isStopped then some (max h.now p.resumes) else none

/-- The process that moves next, and when.  Of two at the same time the older one is first. -/
def next? (h : Host) : Option (Nat × Process) :=
  h.processes.foldr (fun p best? =>
    match h.due? p, best? with
    | some time, some (best, q) => if time ≤ best then some (time, p) else some (best, q)
    | some time, none => some (time, p)
    | none, best? => best?) none

/-! ### Changing a host -/

/-- Changes a process. -/
def change (h : Host) (number : Nat) (f : Process → Process) : Host :=
  { h with processes := h.processes.map fun p => if p.number = number then f p else p }

/-- What is left of a host when a process has ended: its streams are closed, its children lose their
parent, and a process whose parent is gone leaves nothing behind. -/
def finish (h : Host) (number : Nat) (status : Engine.WaitStatus) : Host :=
  let h := h.change number fun p => { p with life := .over status, streams := [] }
  let processes := h.processes.map fun p => if p.parent = number then { p with parent := 1 } else p
  { h with processes := processes.filter fun p => p.parent ≠ 1 || p.status?.isNone }

/-- The number below 128 of a signal as it stands in a wait status. -/
def signalStatus (s : Signal) : Engine.WaitStatus :=
  .signalled s.number.toUInt8

/-- A signal reaches a process. -/
def deliver (h : Host) (p : Process) (s : Signal) : Host :=
  if p.status?.isSome then h
  else
    let disposition := if s.isNegotiable then p.disposition s else .default
    match disposition with
    | .ignored => if s = .cont then h.change p.number ({ · with isStopped := false }) else h
    | .caught => h.change p.number fun p =>
        { p with caught := p.caught ++ [s], isStopped := p.isStopped && s ≠ .cont }
    | .default =>
      match s.effect with
      | .terminates => h.finish p.number (signalStatus s)
      | .stops => h.change p.number ({ · with isStopped := true })
      | .continues => h.change p.number ({ · with isStopped := false })
      | .none => h

/-- A signal is sent to a process. -/
def signal (h : Host) (number : Nat) (s : Signal) : Host :=
  match h.process? number with
  | some p => h.deliver p s
  | none => h

/-- The least number from `start` on under which a process has no stream. -/
def freeNumber (p : Process) (start : Nat) : Nat :=
  let candidates := (List.range (p.streams.length + 1)).map (start + ·)
  (candidates.find? fun n => (p.streams.lookup n).isNone).getD start

/-- Gives a process a stream under a number. -/
def connect (h : Host) (number stream : Nat) (handle : Handle) : Host :=
  h.change number fun p => { p with streams := assign stream handle p.streams }

/-- Takes a stream away from a process. -/
def disconnect (h : Host) (number stream : Nat) : Host :=
  h.change number fun p => { p with streams := p.streams.filter (·.1 ≠ stream) }

/-- Puts bytes into a pipe. -/
def fill (h : Host) (pipe : Nat) (bytes : Bytes) : Host :=
  { h with pipes := assign pipe ((h.pipe pipe).fill bytes) h.pipes }

/-! ### Files -/

/-- The devices and what a process gets when it opens them. -/
def device? (p : Process) (path : Bytes) : Option (Except Nat Handle) :=
  let same (stream : Nat) : Except Nat Handle := ((p.streams.lookup stream).map .ok).getD (.error 6)
  if path = Bytes.ofText "/dev/null" then some (.ok .null)
  else if path = Bytes.ofText "/dev/zero" then some (.ok .zero)
  else if path = Bytes.ofText "/dev/stdin" then some (same 0)
  else if path = Bytes.ofText "/dev/stdout" then some (same 1)
  else if path = Bytes.ofText "/dev/stderr" then some (same 2)
  else if path = Bytes.ofText "/dev/tty" then some (.error 6)
  else none

/-- What a path leads to, as a process sees it. -/
def kind? (h : Host) (p : Process) (path : Bytes) : Option FileKind :=
  match device? p path with
  | some _ => some .device
  | none =>
    match h.files.find path with
    | .ok .directory => some .directory
    | .ok (.regular content mode) => some (.regular content.length (allowsRunning mode))
    | .error _ => none

/-- Opens a file under the next opening number. -/
def openAs (h : Host) (path : Bytes) (mode : OpenMode) : Host × Handle :=
  ({ h with
      openings := (h.nextOpening, { path := Files.plain path, mode }) :: h.openings
      nextOpening := h.nextOpening + 1 },
    .file h.nextOpening)

/-- Sets what a file holds. -/
def store (h : Host) (path content : Bytes) (mode : Nat) : Host :=
  { h with files := h.files.store path (.regular content mode) }

/-- Removes a file. -/
def remove (h : Host) (path : Bytes) : Host :=
  { h with files := h.files.remove path }

/-- Opens a file or a device for a process. -/
def openFor (h : Host) (p : Process) (path : Bytes) (mode : OpenMode) : Except Nat (Host × Handle) :=
  match device? p path with
  | some (.ok handle) => .ok (h, handle)
  | some (.error e) => .error e
  | none =>
    match h.files.find path, mode with
    | .ok _, .read => .ok (h.openAs path mode)
    | .ok .directory, _ => .error 21
    | .ok (.regular _ permissions), .replace => .ok ((h.store path [] permissions).openAs path mode)
    | .ok _, _ => .ok (h.openAs path mode)
    | .error e, mode =>
      if e ≠ 2 || mode = .read || path.isEmpty then .error e
      else
        match h.files.find (Files.parent path) with
        | .ok .directory =>
          if path.getLast? = some Files.slash then .error 21
          else .ok ((h.store path [] plainMode).openAs path mode)
        | _ => .error e

/-- Reads from an opened file. -/
def readOpening (h : Host) (opening limit : Nat) : Except Nat Bytes × Host :=
  match h.openings.lookup opening with
  | none => (.error 9, h)
  | some o =>
    match h.files.file? o.path with
    | some (.regular content _) =>
      if o.mode = .replace || o.mode = .append then (.error 9, h)
      else
        let bytes := (content.drop o.position).take limit
        let o := { o with position := o.position + bytes.length }
        (.ok bytes, { h with openings := assign opening o h.openings })
    | some .directory => (.error 21, h)
    | none => (.ok [], h)

/-- Writes to an opened file. -/
def writeOpening (h : Host) (opening : Nat) (bytes : Bytes) : Except Nat Nat × Host :=
  match h.openings.lookup opening with
  | none => (.error 9, h)
  | some o =>
    if o.mode = .read then (.error 9, h)
    else
      let (content, permissions) :=
        match h.files.file? o.path with
        | some (.regular content permissions) => (content, permissions)
        | _ => ([], plainMode)
      let start := if o.mode = .append then content.length else o.position
      let gap := List.replicate (start - content.length) 0
      let written := content.take start ++ gap ++ bytes ++ content.drop (start + bytes.length)
      let o := { o with position := start + bytes.length }
      (.ok bytes.length,
        { h.store o.path written permissions with openings := assign opening o h.openings })

end Host
end Traversal
