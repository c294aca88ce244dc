import Traversal.Bytes
import Traversal.Host.Program

/-!
# Shell commands

Many engines are shell scripts.  This module holds the commands of the shell language as they are read:
words with their expansions, redirections, and the ways of putting commands together.

The shell knows bytes only.  Its text is written with one character for each byte.
-/

namespace Traversal.Shell

/-- Text of a script, one character for each byte. -/
abbrev Text := List Char

namespace Text

/-- The text of some bytes. -/
def ofBytes (bytes : Bytes) : Text :=
  bytes.map fun b => Char.ofNat b.toNat

/-- The bytes of a text. -/
def toBytes (text : Text) : Bytes :=
  text.map fun c => c.toNat.toUInt8

/-- The text of a string. -/
def ofString (s : String) : Text :=
  ofBytes (Bytes.ofText s)

/-- The decimal digits of a number. -/
def ofNat (n : Nat) : Text :=
  Nat.toDigits 10 n

/-- The digits of a whole number, with a sign if it is negative. -/
def ofInt (n : Int) : Text :=
  if n < 0 then '-' :: ofNat n.natAbs else ofNat n.natAbs

/-- Whether a text is written with digits only, and at least one. -/
def isNumeral (text : Text) : Bool :=
  !text.isEmpty && text.all Char.isDigit

/-- The number that digits stand for. -/
def toNat (text : Text) : Nat :=
  text.foldl (fun n c => 10 * n + (c.toNat - '0'.toNat)) 0

/-- The whole number that a text stands for, if it is written with an optional sign and digits. -/
def toInt? (text : Text) : Option Int :=
  match text with
  | '-' :: digits => if isNumeral digits then some (-(toNat digits : Int)) else none
  | '+' :: digits => if isNumeral digits then some (toNat digits) else none
  | digits => if isNumeral digits then some (toNat digits) else none

end Text

/-- Whether a name can begin with a character. -/
def isNameStart (c : Char) : Bool :=
  c.isAlpha || c = '_'

/-- Whether a name can go on with a character. -/
def isNamePart (c : Char) : Bool :=
  c.isAlphanum || c = '_'

/-- Whether a text is a name. -/
def isName : Text → Bool
  | [] => false
  | c :: rest => isNameStart c && rest.all isNamePart

mutual

/-- A part of a word. -/
inductive Piece where
  | plain (text : Text)
  | quoted (text : Text)
  | parameter (name : Text) (action : Action) (isQuoted : Bool)
  /-- What a command writes. -/
  | output (command : Command) (isQuoted : Bool)
  | arithmetic (expression : List Piece) (isQuoted : Bool)

/-- What is made of the value of a parameter. -/
inductive Action where
  | value
  | length
  /-- The word if there is no value; an empty value may count as none. -/
  | orElse (word : List Piece) (countsEmpty : Bool)
  /-- The word if there is no value, which it becomes. -/
  | assign (word : List Piece) (countsEmpty : Bool)
  /-- An end with the word as its reason if there is no value. -/
  | demand (word : List Piece) (countsEmpty : Bool)
  /-- The word if there is a value. -/
  | instead (word : List Piece) (countsEmpty : Bool)
  /-- The value without a part that matches a pattern, at its front or its end. -/
  | trim (pattern : List Piece) (isAtFront isGreedy : Bool)

/-- What becomes of a stream for the time of a command. -/
inductive Redirection where
  | file (stream : Nat) (mode : Host.OpenMode) (path : List Piece)
  /-- The stream whose number the word gives, or none for a dash. -/
  | copy (stream : Nat) (source : List Piece)
  | document (stream : Nat) (content : List Piece)

/-- A command. -/
inductive Command where
  | nothing
  | simple (line : Nat) (assignments : List (Text × List Piece)) (words : List (List Piece))
      (redirections : List Redirection)
  | pipeline (commands : List Command)
  | negation (command : Command)
  | both (first second : Command)
  | either (first second : Command)
  | sequence (first second : Command)
  | background (command : Command)
  | subshell (command : Command)
  | conditional (test yes no : Command)
  /-- The body is repeated until the test is, or is not, met. -/
  | loop (endsWhenMet : Bool) (test body : Command)
  /-- Without words, the names are the arguments. -/
  | forEach (name : Text) (words? : Option (List (List Piece))) (body : Command)
  | select (word : List Piece) (cases : List (List (List Piece) × Command))
  | define (name : Text) (body : Command)
  | redirected (command : Command) (redirections : List Redirection)

end

/-- A word of a command. -/
abbrev Word := List Piece

instance : Inhabited Command := ⟨.nothing⟩

end Traversal.Shell
