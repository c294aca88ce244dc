/-!
# Faults of a TOML document

A fault is shown with the line it lies on, the place marked below it, and the reason.  Reasons are
either grammatical, with the construct that is broken and what could have stood there, or they
concern the meaning of the document.  A place is what is unread there, so that a reader never counts;
`Fault.locate` turns a pair of places into line, column and width.
-/

namespace Traversal.Toml

/-- A place in a document: the characters from there to the end. -/
abbrev Place := List Char

/-- A stretch of a document, from one place to another. -/
structure Span where
  start : Place
  stop : Place
deriving DecidableEq, Repr

/-- Why a well-formed construct is refused. -/
inductive Objection
  | outOfRange
  | tooDeep
  | tooLarge
  | tooSmall
  | duplicateKey (key : String)
  /-- A key that the named table has already. -/
  | duplicateIn (key : String) (table : List String)
  | extendsValue (path : List String) (type : String)
deriving DecidableEq, Repr

/-- The wording of an objection. -/
def Objection.message : Objection → String
  | .outOfRange => "value is out of range"
  | .tooDeep => "recursion limit exceeded"
  | .tooLarge => "number too large to fit in target type"
  | .tooSmall => "number too small to fit in target type"
  | .duplicateKey key => "duplicate key `" ++ key ++ "`"
  | .duplicateIn key [] => "duplicate key `" ++ key ++ "` in document root"
  | .duplicateIn key table =>
    "duplicate key `" ++ key ++ "` in table `" ++ String.intercalate "." table ++ "`"
  | .extendsValue path type =>
    "dotted key `" ++ String.intercalate "." path ++ "` attempted to extend non-table type ("
      ++ type ++ ")"

/-- Why a document was refused. -/
inductive Cause
  /-- The grammar does not allow it: the broken construct, what could have stood there, and an
  objection to what did. -/
  | grammar (construct : Option String) (expected : List String) (objection : Option Objection)
  | wrongType (found expected : String)
  | wrongValue (found expected : String)
  | unknownField (name : String) (known : List String)
  | missingField (name : String)
deriving DecidableEq, Repr

/-- The wording of a cause; it may be empty. -/
def Cause.message : Cause → String
  | .grammar construct expected objection =>
    String.intercalate "\n"
      ((construct.map ("invalid " ++ ·)).toList
        ++ (if expected.isEmpty then [] else ["expected " ++ String.intercalate ", " expected])
        ++ (objection.map (·.message)).toList)
  | .wrongType found expected => "invalid type: " ++ found ++ ", expected " ++ expected
  | .wrongValue found expected => "invalid value: " ++ found ++ ", expected " ++ expected
  | .unknownField name known =>
    "unknown field `" ++ name ++ "`, expected one of "
      ++ String.intercalate ", " (known.map fun name => "`" ++ name ++ "`")
  | .missingField name => "missing field `" ++ name ++ "`"

/-- A cause, the line it lies on, and the marked part of that line.  Line and column count from
zero. -/
structure Fault where
  cause : Cause
  line : Nat
  column : Nat
  width : Nat
  content : String
deriving DecidableEq, Repr

namespace Fault

/-- The bytes of a stretch of characters in UTF-8. -/
def size (chars : List Char) : Nat :=
  chars.foldl (fun n c => n + c.utf8Size) 0

/-- The line that some characters end on: all after the last line break. -/
def lastLine (chars : List Char) : List Char :=
  (chars.reverse.takeWhile (· ≠ '\n')).reverse

/-- Divides a document before the character that a place stands for: the one that comes next there, or
the last one if there is none. -/
def divide (document : List Char) (place : Place) : List Char × List Char :=
  let count := document.length - max place.length 1
  (document.take count, document.drop count)

/-- The column of a place behind some characters of its line.  It counts characters, but bytes where a
character of several bytes comes next; the end of the document lies one column to the right of its
last character. -/
def columnOf (document line : List Char) : Place → Nat
  | [] => if document.isEmpty then 0 else line.length + 1
  | c :: _ => if c.utf8Size = 1 then line.length else size line

/-- Marks a stretch of a document. -/
def locate (document : List Char) (span : Span) (cause : Cause) : Fault :=
  let (before, after) := divide document span.start
  let line := lastLine before
  let column := columnOf document line span.start
  let content := line ++ after.takeWhile (· ≠ '\n')
  { cause
    line := before.count '\n'
    column
    width := min (size span.start - size span.stop) (size content - column)
    content := String.ofList content }

/-- A margin as wide as the line number and the blanks around it. -/
def margin (number : String) : String :=
  String.ofList (List.replicate (number.length + 1) ' ')

/-- The text of a fault. -/
def message (fault : Fault) : String :=
  let number := toString (fault.line + 1)
  "TOML parse error at line " ++ number ++ ", column " ++ toString (fault.column + 1) ++ "\n"
    ++ margin number ++ "|\n"
    ++ number ++ " | " ++ fault.content ++ "\n"
    ++ margin number ++ "|" ++ String.ofList (List.replicate (fault.column + 1) ' ')
    ++ String.ofList (List.replicate (max fault.width 1) '^') ++ "\n"
    ++ fault.cause.message ++ "\n"

end Fault
end Traversal.Toml
