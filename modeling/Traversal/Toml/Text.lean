import Traversal.Toml.Reader

/-!
# Blanks, line breaks and strings

Basic strings know escapes, literal strings do not, and either kind can run over several lines
between three quotes.  A line break at the very beginning of such a string is left out.
-/

namespace Traversal.Toml

open Reader

/-- Whether a character is a blank. -/
def isBlank (c : Char) : Bool :=
  c = ' ' || c = '\t'

/-- Whether a character may stand in a comment. -/
def isCommentChar (c : Char) : Bool :=
  c = '\t' || (32 ≤ c.toNat && c.toNat ≠ 127)

/-- Whether a character stands for itself in a basic string. -/
def isBasicChar (c : Char) : Bool :=
  isCommentChar c && c ≠ '"' && c ≠ '\\'

/-- Whether a character may stand in a literal string. -/
def isLiteralChar (c : Char) : Bool :=
  isCommentChar c && c ≠ '\''

/-- Whether a character is a hexadecimal digit. -/
def isHexDigit (c : Char) : Bool :=
  c.isDigit || ('a' ≤ c && c ≤ 'f') || ('A' ≤ c && c ≤ 'F')

/-- Reads blanks. -/
def blanks : Reader Unit := do
  let _ ← takeWhile isBlank

/-- Reads a line break; what is none is refused behind its first character. -/
def lineBreak : Reader Unit := do
  match ← satisfy (fun _ => true) with
  | '\n' => return
  | '\r' => let _ ← char '\n'
  | _ => refuse

/-- Reads a comment up to the end of its line. -/
def comment : Reader Unit := do
  let _ ← char '#'
  let _ ← takeWhile isCommentChar

/-- Reads the end of a line or of the document. -/
def lineEnd : Reader Unit :=
  orElse lineBreak atEnd

/-- Reads what may follow an entry on its line. -/
def lineRest : Reader Unit := do
  blanks
  let _ ← optional comment
  lineEnd

/-- Reads blanks and line breaks, of which there must be one. -/
def space1 : Reader Unit := do
  let _ ← many1 (orElse (do let _ ← takeWhile1 isBlank) lineBreak)

/-- Whether a comment or a line break begins with a character. -/
def beginsLineRest (c : Char) : Bool :=
  c = '#' || c = '\n' || c = '\r'

/-- Reads blanks, line breaks and comments.  A comment has a line break behind it here. -/
def spaceAndComments : Reader Unit := do
  blanks
  eachFrom beginsLineRest do
    let _ ← optional comment
    lineBreak
    blanks

/-- The value of a hexadecimal digit. -/
def hexValue (c : Char) : Nat :=
  if c.isDigit then c.toNat - 48
  else if 'a' ≤ c && c ≤ 'f' then c.toNat - 87
  else c.toNat - 55

/-- The number that digits stand for. -/
def number (base : Nat) (digits : List Char) : Nat :=
  digits.foldl (fun n c => n * base + hexValue c) 0

/-- Reads the code point of an escape. -/
def codePoint (digits : Nat) : Reader Char :=
  checked (takeExactly digits isHexDigit) fun chars =>
    let n := number 16 chars
    if n.isValidChar then .ok (Char.ofNat n) else .error .outOfRange

/-- The characters that may follow a backslash. -/
def escapes : List String :=
  ["b", "f", "n", "r", "t", "u", "U", "\\", "\""].map fun s => "`" ++ s ++ "`"

/-- Refuses an escape behind its letter, or before it if the letter is no ASCII character. -/
def refuseEscape (c : Char) : Reader Char := fun s =>
  .error
    { place := if c.utf8Size = 1 then s else c :: s
      isFinal := true
      construct := some "escape sequence"
      expected := escapes }

/-- Reads an escape. -/
def escape : Reader Char := do
  let _ ← char '\\'
  match ← satisfy (fun _ => true) with
  | 'b' => return '\x08'
  | 'f' => return '\x0c'
  | 'n' => return '\n'
  | 'r' => return '\r'
  | 't' => return '\t'
  | 'u' => named (must (codePoint 4)) "unicode 4-digit hex code"
  | 'U' => named (must (codePoint 8)) "unicode 8-digit hex code"
  | '\\' => return '\\'
  | '"' => return '"'
  | c => refuseEscape c

/-- Reads characters of a basic string. -/
def basicChars : Reader (List Char) :=
  orElse (takeWhile1 isBasicChar) (do return [← escape])

/-- Reads a basic string. -/
def basicString : Reader (List Char) := do
  let _ ← char '"'
  let parts ← many basicChars
  let _ ← named (must (char '"')) "basic string"
  return parts.flatten

/-- Reads a literal string. -/
def literalString : Reader (List Char) :=
  (named · "literal string") do
    let _ ← char '\''
    let chars ← takeWhile isLiteralChar
    let _ ← must (char '\'')
    return chars

/-- Reads a backslash that ends a line, with all blanks and line breaks behind it. -/
def continuation : Reader Unit := do
  let _ ← many1 do
    let _ ← char '\\'
    blanks
    lineBreak
    let _ ← optional space1

/-- Reads characters of a basic string over several lines. -/
def longBasicChars : Reader (List Char) :=
  orElse (takeWhile1 isBasicChar)
    (orElse (do continuation; return [])
      (orElse (do return [← escape]) (do lineBreak; return ['\n'])))

/-- Reads characters of a literal string over several lines. -/
def longLiteralChars : Reader (List Char) :=
  orElse (takeWhile1 isLiteralChar) (do lineBreak; return ['\n'])

/-- Three quotes. -/
def fence (quote : Char) : List Char :=
  [quote, quote, quote]

/-- Reads two quotes, or else one, if something given follows. -/
def quotesBefore (quote : Char) (next : Reader Unit) : Reader (List Char) :=
  orElse (do literal [quote, quote]; peek next; return [quote, quote])
    (do literal [quote]; peek next; return [quote])

/-- Reads the body of a string between three quotes: pieces, pieces with quotes before them, and quotes
before the closing ones. -/
def longBody (quote : Char) (piece quotedPieces : Reader (List Char)) : Reader (List Char) := do
  let head ← many piece
  let middle ← many quotedPieces
  let last ← optional (quotesBefore quote (literal (fence quote)))
  return head.flatten ++ middle.flatten ++ last.getD []

/-- Reads a string between three quotes. -/
def longString (quote : Char) (body : Reader (List Char)) (construct : String) :
    Reader (List Char) :=
  (named · construct) do
    literal (fence quote)
    let _ ← optional lineBreak
    let chars ← must body
    must (literal (fence quote))
    return chars

/-- Reads one or two quotes that are no closing ones. -/
def looseQuotes (quote : Char) : Reader (List Char) :=
  quotesBefore quote (do let _ ← satisfy (· ≠ quote))

/-- Reads the body of a basic string over several lines.  Its loose quotes are read whatever comes of the
characters behind them. -/
def longBasicBody : Reader (List Char) :=
  longBody '"' longBasicChars do
    let quotes ← looseQuotes '"'
    let parts ← many longBasicChars
    return quotes ++ parts.flatten

/-- Reads the body of a literal string over several lines.  Its loose quotes are left if nothing that may
stand in the string comes behind them. -/
def longLiteralBody : Reader (List Char) :=
  longBody '\'' longLiteralChars do
    let quotes ← looseQuotes '\''
    let parts ← many1 longLiteralChars
    return quotes ++ parts.flatten

/-- Reads a string of any kind. -/
def string : Reader (List Char) :=
  orElse (longString '"' longBasicBody "multiline basic string")
    (orElse basicString
      (orElse (longString '\'' longLiteralBody "multiline literal string") literalString))

end Traversal.Toml
