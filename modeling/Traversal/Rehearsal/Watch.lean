import Traversal.Rehearsal
import Traversal.Rig.Watcher

/-!
# Watching an engine

A watcher and the engine that it watches, which runs on a host and deals with nobody else.
-/

namespace Traversal

open Host

/-- A watcher, the host of its engine, and what is going to happen to them. -/
structure Watch where
  rig : WatcherRig
  host : Host
  /-- When the session is shut down. -/
  shutdown? : Option Nat := none

namespace Watch

/-- The streams of an engine that deals with nobody. -/
def streams : List (Nat × Handle) :=
  [(0, .null), (1, .null), (2, .null)]

/-- A watch over a shell that runs a script.  Times are in milliseconds. -/
def start (script : Bytes) (grace : Nat) (shutdown? : Option Nat) (dropsNotices : Bool) :
    Except IoFault Watch := do
  let arguments := [Bytes.ofText "-c", script]
  let host ← Rehearsal.launch Shell.Tool.host (Bytes.ofText "sh") arguments streams
  return {
    rig := { watcher := { grace := grace * 1000 }, hasListener := !dropsNotices }
    host
    shutdown? := shutdown?.map (· * 1000) }

/-- The watcher learns what has happened until now. -/
def report (w : Watch) : Watch :=
  let rig := w.rig.settle (.elapse (w.host.now - w.rig.now))
  let rig := if w.shutdown?.any (· ≤ w.host.now) then rig.settle .shutdown else rig
  let host := if rig.isKilled then w.host.signal Rehearsal.engine .kill else w.host
  let rig :=
    match (host.process? Rehearsal.engine).bind (·.status?) with
    | some status => rig.settle (.exit status)
    | none => rig
  { w with rig, host }

/-- The next time at which something is bound to happen: to the watcher, or on the host. -/
def nextTime? (w : Watch) : Option Nat :=
  let shutdown? := if w.rig.isShutdown then none else w.shutdown?
  [shutdown?, w.rig.watcher.deadline?, w.host.nextTime?].foldl
    (fun a? b? => match a?, b? with
      | some a, some b => some (min a b)
      | some a, none => some a
      | none, b? => b?) none

/-- Lets whatever is due next happen. -/
def proceed (w : Watch) : Option Watch :=
  w.nextTime?.bind fun time =>
    if w.host.nextTime? = some time then
      (w.host.step Shell.Tool.launch).map fun host => { w with host }
    else some { w with host := { w.host with now := max w.host.now time } }

/-- Watches until the watcher is done, in at most so many steps. -/
def runFor : Nat → Watch → Watch
  | 0, w => w
  | n + 1, w =>
    let w := w.report
    if w.rig.watcher.isDone then w
    else
      match w.proceed with
      | some w => runFor n w
      | none => w

/-- The notice of a watcher once it is done. -/
def notice? (w : Watch) : Option Notice :=
  (w.runFor Rehearsal.patience).rig.noticesRev.head?

end Watch
end Traversal
