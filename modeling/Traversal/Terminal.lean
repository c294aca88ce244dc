import Traversal.Record.Codec
import Traversal.Session.Step

/-!
# Terminals

A terminal is a program whose own standard streams carry the signaling of a session.  Each message of the
engine becomes a line of output, and each line of input is submitted as a message; a line is only submitted
when the one before it has been written.  When the session is over, the negotiated path becomes the last
line of output.

Two tasks do this.  The reader deals with the input, the writer with the output; whoever waits for the
session hands the last line to the writer.  A terminal moves by turns, as a session does.
-/

namespace Traversal

/-- What the reader of a terminal is about to do. -/
inductive Terminal.Phase
  /-- To look for the next line. -/
  | reading
  /-- To wait until a message has been written. -/
  | awaiting (ticket : Nat)
  | stopped
deriving DecidableEq, Repr

/-- Whose turn it is. -/
inductive Terminal.Turn
  | session (turn : Session.Turn)
  | reader
  | writer
  /-- The session is over, and whoever waits for it learns the outcome. -/
  | conclude
  /-- Something reaches the input. -/
  | input (arrival : Arrival)
deriving DecidableEq, Repr

/-- A session between an input and an output. -/
structure Terminal where
  session : Session
  /-- What has arrived and has not been read. -/
  input : Source := {}
  decoder : Record.Decoder
  /-- The end of the input has been read. -/
  sawEnd : Bool := false
  phase : Terminal.Phase := .reading
  /-- The lines that have yet to be written. -/
  outbox : List Bytes := []
  /-- The lines that have been written, latest first. -/
  writtenRev : List Bytes := []
  /-- The outcome, once whoever waits for it has learnt it. -/
  outcome? : Option Outcome := none

namespace Terminal

/-- The greatest length of a line of input. -/
def lineLimit : Nat := 1048576

/-- A terminal for a session that has not been started; its reader can submit messages. -/
def create (name : String) (config : Config) : Terminal :=
  let session := Session.create name config
  { session := { session with mailbox := session.mailbox.share }
    decoder := { limit := lineLimit } }

/-- What has been written. -/
def output (t : Terminal) : Bytes :=
  (t.writtenRev.reverse.map Record.encode).flatten

/-- The reader stops for good. -/
def stop (t : Terminal) : Terminal :=
  { t with
    phase := .stopped
    session := { t.session with mailbox := t.session.mailbox.part } }

/-- The reader submits a line. -/
def submit (t : Terminal) (line : Bytes) : Terminal :=
  let mailbox := t.session.mailbox
  { t with
    phase := .awaiting mailbox.nextTicket
    session := { t.session with mailbox := mailbox.submit line } }

/-- The reader takes from the input; none if nothing has arrived. -/
def take (t : Terminal) : Option Terminal :=
  match t.input.read with
  | (.chunk bytes, input) => some { t with input, decoder := t.decoder.feed bytes }
  | (.eof, input) => some { t with input, sawEnd := true }
  | (.fault _, input) => some { t with input }.stop
  | (.pending, _) => none

/-- The reader looks for the next line. -/
def search (t : Terminal) : Option Terminal :=
  match if t.sawEnd then t.decoder.finish else t.decoder.next with
  | (.record line, decoder) => some ({ t with decoder }.submit line)
  | (.overlong, decoder) => some { t with decoder }.stop
  | (.nothing, decoder) =>
    let t := { t with decoder }
    if t.sawEnd then some t.stop else t.take

/-- The reader takes a step. -/
def stepReader (t : Terminal) : Option Terminal :=
  match t.phase with
  | .reading => t.search
  | .awaiting ticket =>
    (t.session.mailbox.outcome? ticket).map fun failure? =>
      match failure? with
      | none => { t with phase := .reading }
      | some _ => t.stop
  | .stopped => none

/-- The writer writes a line. -/
def stepWriter (t : Terminal) : Option Terminal :=
  match t.outbox with
  | line :: rest => some { t with outbox := rest, writtenRev := line :: t.writtenRev }
  | [] => none

/-- The last line of an outcome. -/
def lastLine : Outcome → List Bytes
  | .connected path => [path.encode]
  | .failed _ => []

/-- Whoever waits for the session learns its outcome. -/
def conclude (t : Terminal) : Option Terminal :=
  match t.outcome?, t.session.outcome? with
  | none, some outcome =>
    some { t with
      outcome? := some outcome
      phase := .stopped
      outbox := t.outbox ++ lastLine outcome }
  | _, _ => none

/-- Whether a turn of the session can happen at a terminal.  Nobody but the reader submits messages there,
and whoever waits for the outcome stays. -/
def isPossible : Session.Turn → Bool
  | .world (.submit _) => false
  | .world .share => false
  | .world .part => false
  | .world .discard => false
  | .world .abandon => false
  | _ => true

/-- The messages that a session has passed on since it was in an earlier state. -/
def news (before after : Session) : List Bytes :=
  (after.sentRev.take (after.sentRev.length - before.sentRev.length)).reverse

/-- The session takes a turn; its messages go to the writer. -/
def stepSession (t : Terminal) (turn : Session.Turn) : Option Terminal :=
  if isPossible turn then
    (t.session.step turn).map fun session =>
      { t with session, outbox := t.outbox ++ news t.session session }
  else none

/-- One turn; none if whoever's turn it is can do nothing. -/
def step (t : Terminal) : Turn → Option Terminal
  | .session turn => t.stepSession turn
  | .reader => t.stepReader
  | .writer => t.stepWriter
  | .conclude => t.conclude
  | .input arrival => some { t with input := t.input.arrive arrival }

/-- A course of turns; none if one of them is impossible. -/
def run (t : Terminal) (turns : List Turn) : Option Terminal :=
  turns.foldlM step t

/-- The turns of a terminal's own tasks, in the order in which they are tried when there is no other
reason to prefer one. -/
def ownTurns : List Turn :=
  [.writer, .reader, .conclude] ++ Session.ownTurns.map .session

/-- Lets one of the tasks move; none if all of them have to wait. -/
def advance? (t : Terminal) : Option Terminal :=
  ownTurns.findSome? t.step

/-- The outcome once everything has been written. -/
def result? (t : Terminal) : Option Outcome :=
  if t.outbox.isEmpty then t.outcome? else none

end Terminal
end Traversal
