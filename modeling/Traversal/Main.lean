import Traversal.Rehearsal.Terminal

/-!
# The program

Reads the command line, the files that it names and the standard input, and leaves behind what the session
leads to.  The engine runs on a host of its own.
-/

namespace Traversal.Main

open CommandLine

/-- Reads a stream to its end. -/
partial def readAll (stream : IO.FS.Stream) (before : ByteArray) : IO ByteArray := do
  let part ← stream.read 65536
  if part.isEmpty then return before else readAll stream (before ++ part)

/-- A host that has a file, if it can be read. -/
def withFile (host : Host) (path : String) : IO Host := do
  try
    let content ← IO.FS.readBinFile path
    let file := Host.File.regular content.toList Engine.Prepared.mode
    return { host with files := host.files.provide (Bytes.ofText path) file }
  catch _ => return host

/-- A host that has the files that a session needs. -/
def hostFor (arguments : Arguments) : IO Host := do
  let host := Shell.Tool.host
  let host ← match arguments.config? with
    | some path => withFile host path
    | none => pure host
  let content (path : String) := (host.files.content (Bytes.ofText path)).mapError IoFault.os
  match arguments.configure content with
  | .ok config =>
    match config.binary with
    | .path path => if path.contains '/' then withFile host path else return host
    | .embedded _ => return host
  | .error _ => return host

/-- What the program leaves behind. -/
def perform (arguments : List String) : IO Report := do
  match CommandLine.read arguments with
  | .run settings =>
    let host ← hostFor settings
    let input ← readAll (← IO.getStdin) ByteArray.empty
    return TerminalRehearsal.perform host arguments input.toList none
  | _ => return TerminalRehearsal.perform {} arguments [] none

end Traversal.Main

def main (arguments : List String) : IO UInt32 := do
  let report ← Traversal.Main.perform arguments
  (← IO.getStdout).write ⟨report.stdout.toArray⟩
  (← IO.getStderr).write ⟨report.stderr.toArray⟩
  return report.code.toUInt32
