import Traversal.Bytes
import Traversal.CommandLine.Arguments
import Traversal.CommandLine.Complaint
import Traversal.CommandLine.Parameter
import Traversal.CommandLine.Reader
import Traversal.CommandLine.Usage
import Traversal.Config
import Traversal.Config.Reader
import Traversal.Decimal.Binary64
import Traversal.Decimal.Layout
import Traversal.Decimal.Shortest
import Traversal.Engine.Child
import Traversal.Engine.Exit
import Traversal.Engine.Invocation
import Traversal.Engine.Prepared
import Traversal.Failure
import Traversal.FiveTuple
import Traversal.FiveTuple.Reader
import Traversal.Host
import Traversal.Host.Files
import Traversal.Host.Program
import Traversal.Host.Signal
import Traversal.Host.Step
import Traversal.Json.Blank
import Traversal.Json.Extent
import Traversal.Json.Fault
import Traversal.Json.Number
import Traversal.Json.Quoted
import Traversal.Json.Text
import Traversal.Json.Typed
import Traversal.Main
import Traversal.Proofs.Lines
import Traversal.Proofs.Decoder
import Traversal.Proofs.Reading
import Traversal.Protocol
import Traversal.Record.Codec
import Traversal.Record.Content
import Traversal.Rehearsal
import Traversal.Rehearsal.Script
import Traversal.Rehearsal.Terminal
import Traversal.Rehearsal.Watch
import Traversal.Rig.Pump
import Traversal.Rig.Relay
import Traversal.Rig.Router
import Traversal.Rig.Watcher
import Traversal.Role
import Traversal.Session
import Traversal.Session.Controller
import Traversal.Session.Mailbox
import Traversal.Session.Notice
import Traversal.Session.Slot
import Traversal.Session.Step
import Traversal.Shell.Arithmetic
import Traversal.Shell.Builtin
import Traversal.Shell.Command
import Traversal.Shell.Condition
import Traversal.Shell.Field
import Traversal.Shell.Format
import Traversal.Shell.Input
import Traversal.Shell.Job
import Traversal.Shell.Options
import Traversal.Shell.Pattern
import Traversal.Shell.Reader
import Traversal.Shell.Run
import Traversal.Shell.Tool
import Traversal.Stream.Fault
import Traversal.Stream.Sink
import Traversal.Stream.Source
import Traversal.Task.Pump
import Traversal.Task.Relay
import Traversal.Task.Router
import Traversal.Task.Watcher
import Traversal.Terminal
import Traversal.Text.Literal
import Traversal.Text.Printable
import Traversal.Text.Similarity
import Traversal.Text.Utf8
import Traversal.Text.Visible
import Traversal.Toml.Document
import Traversal.Toml.Entry
import Traversal.Toml.Fault
import Traversal.Toml.Moment
import Traversal.Toml.Number
import Traversal.Toml.Reader
import Traversal.Toml.Text
import Traversal.Toml.Value
import Traversal.Proofs.Router
import Traversal.Proofs.RouterCourse
import Traversal.Proofs.Pump
import Traversal.Proofs.PumpCourse
import Traversal.Proofs.Controller
import Traversal.Proofs.Reports
import Traversal.Proofs.SessionCourse
import Traversal.Proofs.Forwarding
import Traversal.Proofs.Delivery
import Traversal.Proofs.PumpLedger
import Traversal.Proofs.Decoding
import Traversal.Proofs.Reporting
import Traversal.Proofs.Chronicle
import Traversal.Proofs.Draining
import Traversal.Proofs.PumpReplies
import Traversal.Proofs.PumpAnswers
import Traversal.Proofs.PumpDocket
import Traversal.Proofs.Mailbox
import Traversal.Proofs.Submissions
import Traversal.Proofs.Stopping
import Traversal.Proofs.Posting
import Traversal.Proofs.Teardown
import Traversal.Proofs.Utf8
import Traversal.Proofs.Quoted
import Traversal.Proofs.PathText
import Traversal.Proofs.TerminalCourse
import Traversal.Proofs.TerminalOutput
import Traversal.Proofs.Conveyance
import Traversal.Proofs.PumpWork
import Traversal.Proofs.TerminalInput
import Traversal.Proofs.Relay
import Traversal.Proofs.RelayCourse
import Traversal.Proofs.RelayWork
import Traversal.Proofs.JsonString
import Traversal.Proofs.JsonExtent
import Traversal.Proofs.PathObject
import Traversal.Proofs.DecoderCourse
import Traversal.Proofs.RouterTrail
import Traversal.Proofs.PumpLeftover
import Traversal.Proofs.Watcher
import Traversal.Proofs.WatcherCourse
import Traversal.Proofs.WatcherReport
import Traversal.Proofs.DecoderSearch
import Traversal.Proofs.Marker
import Traversal.Proofs.TomlReader
import Traversal.Proofs.TomlText
import Traversal.Proofs.TomlNumber
import Traversal.Proofs.TomlValue
import Traversal.Proofs.TomlDocument
import Traversal.Proofs.TomlTable
import Traversal.Proofs.TomlBounds
import Traversal.Proofs.ConfigSettings
import Traversal.Proofs.ConfigText
import Traversal.Proofs.ConfigQueues
import Traversal.Proofs.NoticeQueue
