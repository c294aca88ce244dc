import Traversal.Shell.Arithmetic

/-!
# Formatted output

What the commands `echo` and `printf` write.  A backslash begins an escape; in a format, a percent sign
begins the description of how an argument is written.  A format is used again as long as there are
arguments left.
-/

namespace Traversal.Shell.Format

/-- Whether a character is an octal digit. -/
def isOctal (c : Char) : Bool :=
  '0' ≤ c && c ≤ '7'

/-- The character of an escape behind its backslash, and the rest; a backslash that escapes nothing stands
for itself. -/
def unescape (text : Text) : Char × Text :=
  match text with
  | '\\' :: rest => ('\\', rest)
  | 'a' :: rest => ('\x07', rest)
  | 'b' :: rest => ('\x08', rest)
  | 'f' :: rest => ('\x0c', rest)
  | 'n' :: rest => ('\n', rest)
  | 'r' :: rest => ('\r', rest)
  | 't' :: rest => ('\t', rest)
  | 'v' :: rest => ('\x0b', rest)
  | text =>
    let digits := (text.take 3).takeWhile isOctal
    if digits.isEmpty then ('\\', text)
    else
      (Char.ofNat ((digits.foldl (fun n c => 8 * n + (c.toNat - 48)) 0) % 256),
        text.drop digits.length)

/-- A text with its escapes replaced, and whether it asks that nothing be written behind it; an octal number
may have a further zero in front.  Deals with at most so many characters. -/
def unescapeUpTo : Nat → Text → Text × Bool
  | 0, text => (text, false)
  | n + 1, text =>
    match text with
    | [] => ([], false)
    | '\\' :: 'c' :: _ => ([], true)
    | '\\' :: rest =>
      let rest :=
        match rest with
        | '0' :: d :: behind => if isOctal d then d :: behind else rest
        | _ => rest
      let (c, rest) := unescape rest
      let (text, isOver) := unescapeUpTo n rest
      (c :: text, isOver)
    | c :: rest =>
      let (text, isOver) := unescapeUpTo n rest
      (c :: text, isOver)

/-- A text with its escapes replaced, and whether it asks that nothing be written behind it. -/
def unescapeAll (text : Text) : Text × Bool :=
  unescapeUpTo text.length text

/-- What `echo` writes. -/
def echo (arguments : List Text) : Text :=
  let (isOpen, words) :=
    match arguments with
    | ['-', 'n'] :: rest => (true, rest)
    | words => (false, words)
  let (text, isOver) := unescapeAll ([' '].intercalate words)
  text ++ (if isOver || isOpen then [] else ['\n'])

/-- How an argument is written. -/
structure Directive where
  isLeft : Bool := false
  hasSign : Bool := false
  hasBlank : Bool := false
  hasZeros : Bool := false
  isAlternative : Bool := false
  width : Nat := 0
  precision : Option Nat := none
deriving DecidableEq, Repr

namespace Directive

/-- Adds a flag. -/
def withFlag (d : Directive) (c : Char) : Directive :=
  match c with
  | '-' => { d with isLeft := true }
  | '+' => { d with hasSign := true }
  | ' ' => { d with hasBlank := true }
  | '0' => { d with hasZeros := true }
  | _ => { d with isAlternative := true }

/-- Brings a text to its width. -/
def pad (d : Directive) (text : Text) : Text :=
  let blanks := List.replicate (d.width - text.length) ' '
  if d.isLeft then text ++ blanks else blanks ++ text

/-- Writes a text, or as much of it as the precision allows. -/
def ofText (d : Directive) (text : Text) : Text :=
  d.pad ((d.precision.map text.take).getD text)

/-- Writes digits behind a sign or another mark. -/
def ofDigits (d : Directive) (mark digits : Text) : Text :=
  let least :=
    match d.precision with
    | some n => n
    | none => if d.hasZeros && !d.isLeft then d.width - mark.length else 0
  d.pad (mark ++ List.replicate (least - digits.length) '0' ++ digits)

/-- Writes a whole number. -/
def ofInt (d : Directive) (n : Int) : Text :=
  let mark := if n < 0 then ['-'] else if d.hasSign then ['+'] else if d.hasBlank then [' '] else []
  d.ofDigits mark (if n = 0 && d.precision = some 0 then [] else Text.ofNat n.natAbs)

/-- Writes a natural number in a base; a mark tells the base if that is asked for. -/
def ofNat (d : Directive) (base : Nat) (isUpper : Bool) (n : Nat) : Text :=
  let digits := if n = 0 && d.precision = some 0 then [] else Nat.toDigits base n
  let digits := if isUpper then digits.map Char.toUpper else digits
  let mark :=
    if !d.isAlternative || n = 0 then []
    else if base = 16 then (if isUpper then ['0', 'X'] else ['0', 'x'])
    else if base = 8 then ['0']
    else []
  d.ofDigits mark digits

end Directive

/-- What has been written, and what is left of the arguments. -/
structure Progress where
  written : Text := []
  arguments : List Text
  /-- What is wrong with the arguments or the format. -/
  complaints : List Text := []
  /-- Nothing more is to be written. -/
  isOver : Bool := false
  /-- The format cannot be used. -/
  isBroken : Bool := false
deriving DecidableEq, Repr

namespace Progress

/-- Writes a text behind the others. -/
def write (p : Progress) (text : Text) : Progress :=
  { p with written := p.written ++ text }

/-- Complains about a text. -/
def complain (p : Progress) (text : Text) (reason : String) : Progress :=
  { p with complaints := p.complaints ++ [text ++ Text.ofString (": " ++ reason)] }

/-- Takes an argument, an empty one if none is left. -/
def take (p : Progress) : Text × Progress :=
  (p.arguments.headD [], { p with arguments := p.arguments.tail })

/-- The first number that is too large. -/
def limit : Int := Nat.pow 2 63

/-- Takes an argument as a number; a character behind a quote stands for its code. -/
def takeInt (p : Progress) : Int × Progress :=
  let (argument, p) := p.take
  let (isNegative, digits) :=
    match Arithmetic.skipSpace argument with
    | '-' :: rest => (true, rest)
    | '+' :: rest => (false, rest)
    | rest => (false, rest)
  match argument with
  | [] => (0, p)
  | '"' :: c :: _ => (c.toNat, p)
  | '\'' :: c :: _ => (c.toNat, p)
  | _ =>
    let (n, rest) := Arithmetic.number digits
    let n := if isNegative then -n else n
    if !(digits.head?.any Char.isDigit) then (0, p.complain argument "expected numeric value")
    else if !rest.isEmpty then (n, p.complain argument "not completely converted")
    else if n < -limit then (-limit, p.complain argument "Numerical result out of range")
    else if n < limit then (n, p)
    else (limit - 1, p.complain argument "Numerical result out of range")

/-- Writes an argument as a directive and its letter say; none if there is no such letter. -/
def convert (p : Progress) (d : Directive) (letter : Char) : Option Progress :=
  let natural (base : Nat) (isUpper : Bool) : Progress :=
    let (n, p) := p.takeInt
    p.write (d.ofNat base isUpper (n % (2 * limit)).toNat)
  match letter with
  | 's' =>
    let (text, p) := p.take
    some (p.write (d.ofText text))
  | 'b' =>
    let (text, p) := p.take
    let (text, isOver) := unescapeAll text
    some { p.write (d.ofText text) with isOver }
  | 'c' =>
    let (text, p) := p.take
    some (p.write (d.pad [text.headD '\x00']))
  | 'd' =>
    let (n, p) := p.takeInt
    some (p.write (d.ofInt n))
  | 'i' =>
    let (n, p) := p.takeInt
    some (p.write (d.ofInt n))
  | 'u' => some (natural 10 false)
  | 'o' => some (natural 8 false)
  | 'x' => some (natural 16 false)
  | 'X' => some (natural 16 true)
  | _ => none

end Progress

/-- A number in a directive: digits, or an argument in place of an asterisk. -/
def measure (p : Progress) (format : Text) : Int × Progress × Text :=
  match format with
  | '*' :: rest =>
    let (n, p) := p.takeInt
    (n, p, rest)
  | format =>
    let digits := format.takeWhile Char.isDigit
    (Text.toNat digits, p, format.drop digits.length)

/-- Writes an argument as the directive at the front of a format says, and gives the rest of the format. -/
def directive (p : Progress) (format : Text) : Progress × Text :=
  let whole := format
  let flags := format.takeWhile fun c => ['#', '-', '+', ' ', '0'].contains c
  let d := flags.foldl Directive.withFlag {}
  let (width, p, rest) := measure p (format.drop flags.length)
  let d := { d with width := width.natAbs, isLeft := d.isLeft || width < 0 }
  let (d, p, rest) :=
    match rest with
    | '.' :: rest =>
      let (precision, p, rest) := measure p rest
      ({ d with precision := if precision < 0 then none else some precision.toNat }, p, rest)
    | rest => (d, p, rest)
  match rest with
  | [] =>
    let complaints := p.complaints ++ [Text.ofString "missing format character"]
    ({ p with complaints, isOver := true, isBroken := true }, [])
  | letter :: rest =>
    match p.convert d letter with
    | some p => (p, rest)
    | none =>
      let written := whole.take (whole.length - rest.length)
      ({ p.complain ('%' :: written) "invalid directive" with isOver := true, isBroken := true }, [])

/-- Uses a format once; deals with at most so many of its parts. -/
def once : Nat → Text → Progress → Progress
  | 0, _, p => p
  | n + 1, format, p =>
    if p.isOver then p
    else
      match format with
      | [] => p
      | '\\' :: rest =>
        let (c, rest) := unescape rest
        once n rest (p.write [c])
      | '%' :: '%' :: rest => once n rest (p.write ['%'])
      | '%' :: rest =>
        let (p, rest) := directive p rest
        once n rest p
      | c :: rest => once n rest (p.write [c])

/-- Uses a format again as long as it takes arguments, at most so many times. -/
def again (format : Text) : Nat → Progress → Progress
  | 0, p => p
  | n + 1, p =>
    let q := once format.length format p
    if q.isOver || q.arguments.isEmpty || q.arguments.length = p.arguments.length then q
    else again format n q

/-- What `printf` writes, what is wrong with its arguments, and whether the format is at fault. -/
def printf (format : Text) (arguments : List Text) : Text × List Text × Bool :=
  let p := again format (arguments.length + 1) { arguments }
  (p.written, p.complaints, p.isBroken)

end Traversal.Shell.Format
