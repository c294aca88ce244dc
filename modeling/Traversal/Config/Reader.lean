import Traversal.Failure
import Traversal.Text.Utf8
import Traversal.Toml.Document

/-!
# Reading configurations

A configuration file is a TOML document of up to six fields.  The binary must be named; the others have
defaults.  Fields are taken in the order in which they stand, so that of two faults the first one is
reported.
-/

namespace Traversal.Config

open Toml

/-- The fields of a configuration file. -/
inductive Field
  | binary
  | extraArgs
  | maxLineBytes
  | errorQueueCapacity
  | inboundQueueCapacity
  | shutdownGrace
deriving DecidableEq, Repr

namespace Field

/-- All fields in their order. -/
def all : List Field :=
  [binary, extraArgs, maxLineBytes, errorQueueCapacity, inboundQueueCapacity, shutdownGrace]

/-- The key of a field. -/
def name : Field → String
  | binary => "binary"
  | extraArgs => "extra_args"
  | maxLineBytes => "max_line_bytes"
  | errorQueueCapacity => "error_queue_capacity"
  | inboundQueueCapacity => "inbound_queue_capacity"
  | shutdownGrace => "shutdown_grace_ms"

/-- The field of a key. -/
def ofName? (text : String) : Option Field :=
  all.find? (·.name = text)

end Field

/-- A cause and the stretch of the document it is blamed on. -/
structure Misfit where
  cause : Cause
  span : Span
deriving DecidableEq, Repr

/-- What a value is called in a fault. -/
def describe : Value → String
  | .text s => "string " ++ Text.literal s
  | .integer n => "integer `" ++ toString n ++ "`"
  | .real x => "floating point `" ++ x.render ++ "`"
  | .boolean b => "boolean `" ++ toString b ++ "`"
  | .moment _ => "map"
  | .list _ => "sequence"
  | .inline _ _ => "map"

/-- What an item is called in a fault. -/
def describeItem : Item → String
  | .value v _ => describe v
  | .table _ _ => "map"
  | .tables _ => "sequence"

/-- The stretch of an item; an item without one is blamed on its key. -/
def spanOf (key : Key) : Item → Span
  | .value _ span => span
  | .table origin _ => origin.span.getD key.span
  | .tables tables => (spanOfTables tables).getD key.span

/-- Refuses an item for its type. -/
def misfit {α : Type} (key : Key) (item : Item) (expected : String) : Except Misfit α :=
  .error ⟨.wrongType (describeItem item) expected, spanOf key item⟩

/-- Reads a file name. -/
def readPath (key : Key) (item : Item) : Except Misfit String :=
  match item with
  | .value (.text s) _ => .ok s
  | _ => misfit key item "path string"

/-- Reads a number of a type that has no negative numbers. -/
def readNatural (type : String) (key : Key) (item : Item) : Except Misfit Nat :=
  match item with
  | .value (.integer n) span =>
    if n < 0 then .error ⟨.wrongValue (describe (.integer n)) type, span⟩ else .ok n.toNat
  | _ => misfit key item type

/-- Reads a list of strings. -/
def readTexts (key : Key) (item : Item) : Except Misfit (List String) :=
  match item with
  | .value (.list elements) _ => elements.mapM fun (v, span) =>
    match v with
    | .text s => .ok s
    | v => .error ⟨.wrongType (describe v) "a string", span⟩
  | .tables ((origin, _) :: _) =>
    .error ⟨.wrongType "map" "a string", origin.span.getD (spanOf key item)⟩
  | .tables [] => .ok []
  | _ => misfit key item "a sequence"

/-- The fields read so far. -/
structure Draft where
  binary : Option String := none
  settings : Config := { binary := .path "" }

namespace Draft

/-- Reads a field into a draft. -/
def read (draft : Draft) (field : Field) (key : Key) (item : Item) : Except Misfit Draft :=
  let settings := draft.settings
  match field with
  | .binary => do return { draft with binary := some (← readPath key item) }
  | .extraArgs => do
    return { draft with settings := { settings with extraArgs := ← readTexts key item } }
  | .maxLineBytes => do
    return { draft with settings := { settings with maxLineBytes := ← readNatural "usize" key item } }
  | .errorQueueCapacity => do
    return { draft with
      settings := { settings with errorQueueCapacity := ← readNatural "usize" key item } }
  | .inboundQueueCapacity => do
    return { draft with
      settings := { settings with inboundQueueCapacity := ← readNatural "usize" key item } }
  | .shutdownGrace => do
    return { draft with settings := { settings with shutdownGrace := ← readNatural "u64" key item } }

/-- Reads whatever a key names into a draft. -/
def readEntry (draft : Draft) (entry : Toml.Key × Item) : Except Misfit Draft :=
  match Field.ofName? entry.1.name with
  | some field => draft.read field entry.1 entry.2
  | none => .error ⟨.unknownField entry.1.name (Field.all.map (·.name)), entry.1.span⟩

end Draft

/-- The configuration that a document describes. -/
def ofTable (t : Table) (whole : Span) : Except Misfit Config := do
  let draft ← t.entries.foldlM Draft.readEntry {}
  match draft.binary with
  | some path => .ok { draft.settings with binary := .path path }
  | none => .error ⟨.missingField Field.binary.name, t.origin.span.getD whole⟩

/-- Refuses a configuration that breaks a limit. -/
def validate (c : Config) : Except Failure Config :=
  match c.violation? with
  | none => .ok c
  | some violation => .error (.configViolation violation)

/-- Reads the text of a configuration file. -/
def parse (text : String) : Except Failure Config :=
  match Toml.parse text with
  | .error fault => .error (.configMalformed fault)
  | .ok t =>
    match ofTable t ⟨text.toList, text.toList⟩ with
    | .error misfit => .error (.configMalformed (Fault.locate text.toList misfit.span misfit.cause))
    | .ok c => validate c

/-- Reads the content of a configuration file, or reports why there is none. -/
def load (content : Except IoFault Bytes) : Except Failure Config :=
  match content with
  | .error fault => .error (.configUnreadable fault)
  | .ok bytes =>
    match Utf8.decode bytes with
    | some text => parse text
    | none => .error (.configUnreadable (.described "stream did not contain valid UTF-8"))

end Traversal.Config
