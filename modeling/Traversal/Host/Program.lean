import Traversal.Bytes
import Traversal.Engine.Exit
import Traversal.Host.Signal

/-!
# Programs

A program is what a process has yet to do.  It ends, or it asks the host for something and goes on with the
answer.  What a program computes between two requests takes no time and is seen by nobody.
-/

namespace Traversal.Host

/-- How a file is opened. -/
inductive OpenMode
  | read
  /-- What the file holds is thrown away. -/
  | replace
  | append
  | update
deriving DecidableEq, Repr

/-- What a path leads to. -/
inductive FileKind
  | regular (size : Nat) (isExecutable : Bool)
  | directory
  | device
deriving DecidableEq, Repr

/-- A request to the host.  Streams are named by the numbers that a process has for them. -/
inductive Call
  | read (stream limit : Nat)
  | write (stream : Nat) (bytes : Bytes)
  | openFile (path : Bytes) (mode : OpenMode)
  | close (stream : Nat)
  /-- A number comes to mean the same stream as another one. -/
  | copyTo (stream target : Nat)
  /-- A number from ten on that is free comes to mean the same stream. -/
  | save (stream : Nat)
  /-- A pipe, as the numbers of its reading and its writing end. -/
  | pipe
  | sleep (duration : Nat)
  /-- The end of a child, or of any child; a caught signal may interrupt the wait. -/
  | await (child? : Option Nat) (isInterruptible : Bool)
  | send (target : Nat) (signal : Signal)
  | dispose (signal : Signal) (disposition : Disposition)
  | disposition (signal : Signal)
  /-- The signals that have been caught since the last request of this kind. -/
  | caught
  | identity
  | inspect (path : Bytes)
deriving DecidableEq, Repr

/-- How waiting for a child ends. -/
inductive Farewell
  | ended (child : Nat) (status : Engine.WaitStatus)
  | interrupted (signal : Signal)
  | childless
deriving DecidableEq, Repr

/-- The type of the answers to a request; a request can be refused with an error number. -/
@[reducible] def Call.Answer : Call → Type
  | read _ _ => Except Nat Bytes
  | write _ _ => Except Nat Nat
  | openFile _ _ => Except Nat Nat
  | close _ => Unit
  | copyTo _ _ => Bool
  | save _ => Option Nat
  | pipe => Nat × Nat
  | sleep _ => Unit
  | await _ _ => Farewell
  | send _ _ => Bool
  | dispose _ _ => Unit
  | disposition _ => Disposition
  | caught => List Signal
  | identity => Nat
  | inspect _ => Option FileKind

/-- A program to turn to. -/
structure Invocation where
  path : Bytes
  /-- What the program is told that it is called. -/
  name : Bytes
  arguments : List Bytes := []
  /-- The variables that the program finds. -/
  environment : List (Bytes × Bytes) := []
deriving DecidableEq, Repr

/-- What a process has yet to do. -/
inductive Program
  | exit (code : UInt8)
  | call (c : Call) (next : c.Answer → Program)
  /-- A child begins, and its parent goes on. -/
  | fork (child : Program) (next : Nat → Program)
  /-- The process turns to the program in a file, unless that is impossible. -/
  | execute (invocation : Invocation) (otherwise : Nat → Program)

namespace Program

/-- Writes all of some bytes and tells whether that worked. -/
def writeAll (stream : Nat) : Nat → Bytes → (Bool → Program) → Program
  | 0, _, next => next false
  | n + 1, bytes, next =>
    if bytes.isEmpty then next true
    else
      .call (.write stream bytes) fun
        | .ok taken => writeAll stream n (bytes.drop taken) next
        | .error _ => next false

/-- Writes some bytes and tells whether that worked. -/
def put (stream : Nat) (bytes : Bytes) (next : Bool → Program) : Program :=
  writeAll stream (bytes.length + 1) bytes next

end Program
end Traversal.Host
