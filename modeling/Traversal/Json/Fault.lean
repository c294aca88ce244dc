import Traversal.Bytes

/-!
# Faults of a JSON text

A reader stops with a `Misread`: the cause and the bytes that were still unread at the place it
blames.  Against the whole text this becomes a `Fault`, which names the place by line and column,
both counted in bytes, the line from one.
-/

namespace Traversal.Json

/-- Why a JSON text was refused. -/
inductive Cause
  | listUnfinished | objectUnfinished | stringUnfinished | valueUnfinished
  | colonExpected | listSeparatorExpected | objectSeparatorExpected
  | wordExpected | valueExpected | keyNotString
  | badEscape | badNumber | numberTooLarge | badEncoding | rawControl
  | loneSurrogate | escapeUnfinished
  | trailingComma | trailingText | tooDeep
  /-- A value of one type where another was called for. -/
  | wrongType (found expected : String)
  | unknownVariant (name : String) (known : List String)
  | missingField (name : String)
  | duplicateField (name : String)
  | wrongLength (length : Nat) (expected : String)
deriving DecidableEq, Repr

/-- The two names as a choice. -/
def choice : List String → String
  | [a] => "`" ++ a ++ "`"
  | [a, b] => "`" ++ a ++ "` or `" ++ b ++ "`"
  | names => "one of " ++ String.intercalate ", " (names.map fun name => "`" ++ name ++ "`")

/-- The wording of a cause. -/
def Cause.message : Cause → String
  | .listUnfinished => "EOF while parsing a list"
  | .objectUnfinished => "EOF while parsing an object"
  | .stringUnfinished => "EOF while parsing a string"
  | .valueUnfinished => "EOF while parsing a value"
  | .colonExpected => "expected `:`"
  | .listSeparatorExpected => "expected `,` or `]`"
  | .objectSeparatorExpected => "expected `,` or `\x7d`"
  | .wordExpected => "expected ident"
  | .valueExpected => "expected value"
  | .keyNotString => "key must be a string"
  | .badEscape => "invalid escape"
  | .badNumber => "invalid number"
  | .numberTooLarge => "number out of range"
  | .badEncoding => "invalid unicode code point"
  | .rawControl => "control character (\\u0000-\\u001F) found while parsing a string"
  | .loneSurrogate => "lone leading surrogate in hex escape"
  | .escapeUnfinished => "unexpected end of hex escape"
  | .trailingComma => "trailing comma"
  | .trailingText => "trailing characters"
  | .tooDeep => "recursion limit exceeded"
  | .wrongType found expected => "invalid type: " ++ found ++ ", expected " ++ expected
  | .unknownVariant name known => "unknown variant `" ++ name ++ "`, expected " ++ choice known
  | .missingField name => "missing field `" ++ name ++ "`"
  | .duplicateField name => "duplicate field `" ++ name ++ "`"
  | .wrongLength length expected =>
    "invalid length " ++ toString length ++ ", expected " ++ expected

/-- A cause together with the bytes unread at the place it blames. -/
structure Misread where
  cause : Cause
  unread : Bytes
deriving DecidableEq, Repr

/-- A cause blamed on the place that has just been reached. -/
def stop {α : Type} (cause : Cause) (rest : Bytes) : Except Misread α :=
  .error ⟨cause, rest⟩

/-- A cause blamed on the next byte, which counts as read if there is one. -/
def stopPast {α : Type} (cause : Cause) (rest : Bytes) : Except Misread α :=
  .error ⟨cause, rest.drop 1⟩

/-- A cause and its place in the text. -/
structure Fault where
  cause : Cause
  line : Nat
  column : Nat
deriving DecidableEq, Repr

/-- The text of a fault. -/
def Fault.message (fault : Fault) : String :=
  fault.cause.message ++ " at line " ++ toString fault.line ++ " column " ++ toString fault.column

/-- Places a misread in the text that was read. -/
def Misread.place (text : Bytes) (misread : Misread) : Fault :=
  let seen := text.take (text.length - misread.unread.length)
  { cause := misread.cause
    line := seen.count Bytes.newline + 1
    column := (seen.reverse.takeWhile (· ≠ Bytes.newline)).length }

end Traversal.Json
