/-!
# Visible text

Text that is shown to people without a terminal: without the control characters that do not just move on
to another place, and without the sequences that would control a terminal.  `Text.visible` is what is left
of a text that begins outside of all sequences; a sequence that the text does not end swallows the rest.
-/

namespace Traversal.Text

/-- Where in a control sequence a character stands. -/
inductive ControlPlace
  /-- Outside of all sequences. -/
  | outside
  /-- Behind the character that begins a sequence. -/
  | escape
  /-- In the middle of a short sequence. -/
  | intermediate
  /-- Among the parameters of a sequence. -/
  | parameters
  /-- In a command to the system, which a bell ends. -/
  | command
  /-- At the beginning of a message to a device. -/
  | device
  /-- Among the parameters of a message to a device. -/
  | deviceParameters
  /-- Behind the parameters of a message to a device. -/
  | deviceIntermediate
  /-- In a message that only its terminator ends. -/
  | payload
deriving DecidableEq, Repr

/-- Whether a character just moves on to another place. -/
def isSpacing (c : Char) : Bool :=
  c = ' ' || c = '\t' || c = '\n' || c = '\r' || c = '\x0c'

/-- Whether a character has no glyph but an effect. -/
def isControl (c : Char) : Bool :=
  c.toNat < 32 || c.toNat = 127

/-- Whether the byte that terminates a message is among those of a character in UTF-8. -/
def holdsTerminator (c : Char) : Bool :=
  (String.utf8EncodeChar c).any (· = 0x9c)

namespace ControlPlace

/-- Whether control characters are part of a sequence at a place. -/
def isMessage : ControlPlace → Bool
  | outside | escape | intermediate | parameters => false
  | command | device | deviceParameters | deviceIntermediate | payload => true

/-- The place behind the character that follows the beginning of a sequence. -/
def ofKind (c : Char) : ControlPlace :=
  match c with
  | '[' => parameters
  | ']' => command
  | 'P' => device
  | 'X' | '^' | '_' => payload
  | c =>
    if ' ' ≤ c && c ≤ '/' then intermediate
    else if '0' ≤ c && c ≤ '~' then outside
    else escape

/-- The place behind a character in the head of a message to a device. -/
def nextInHead (place : ControlPlace) (c : Char) : ControlPlace :=
  if '@' ≤ c && c ≤ '~' then payload
  else if ' ' ≤ c && c ≤ '/' then deviceIntermediate
  else if '0' ≤ c && c ≤ '?' then
    match place with
    | device => deviceParameters
    | deviceParameters => if c ≤ ';' then deviceParameters else payload
    | _ => payload
  else place

/-- The place behind a character in a sequence. -/
def next (place : ControlPlace) (c : Char) : ControlPlace :=
  if c = '\x1b' then escape
  else if c = '\x18' || c = '\x1a' then outside
  else
    match place with
    | outside => outside
    | escape => ofKind c
    | intermediate => if '0' ≤ c && c ≤ '~' then outside else intermediate
    | parameters => if '@' ≤ c && c ≤ '~' then outside else parameters
    | command => if c = '\x07' then outside else command
    | device | deviceParameters | deviceIntermediate => place.nextInHead c
    | payload => if holdsTerminator c then outside else payload

end ControlPlace

/-- What is visible of a text that goes on at a place.  A character that moves on interrupts a sequence,
which is taken up again at the next control character unless a character outside ASCII comes first;
`isInterrupted` says that it has been. -/
def visibleFrom (place : ControlPlace) (isInterrupted : Bool) : List Char → List Char
  | [] => []
  | c :: rest =>
    if isControl c then
      if isSpacing c && !place.isMessage then c :: visibleFrom place true rest
      else visibleFrom (place.next c) false rest
    else if isInterrupted || place = .outside then
      c :: visibleFrom (if c.toNat < 128 then place else .outside) true rest
    else visibleFrom (place.next c) false rest

/-- What is visible of a text. -/
def visible (text : String) : String :=
  String.ofList (visibleFrom .outside false text.toList)

end Traversal.Text
