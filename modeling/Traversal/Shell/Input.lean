import Traversal.Shell.Command

/-!
# The text of a script while it is read

A script is read command by command, and each command runs before the next one is read.  What is unread is
kept together with the line on which it begins.
-/

namespace Traversal.Shell

/-- Why a script cannot be read on. -/
inductive Complaint
  /-- Something stands where it cannot, and perhaps something else should have. -/
  | unexpected (found : String) (expected? : Option String)
  | unterminatedQuote
  | unterminatedBackquote
  | badSubstitution
  | badFunctionName
  | badLoopVariable
  | missingBrace
  | missingArithmeticEnd
deriving DecidableEq, Repr

/-- The wording of a complaint. -/
def Complaint.message : Complaint → String
  | unexpected found none => "Syntax error: " ++ found ++ " unexpected"
  | unexpected found (some expected) =>
    "Syntax error: " ++ found ++ " unexpected (expecting " ++ expected ++ ")"
  | unterminatedQuote => "Syntax error: Unterminated quoted string"
  | unterminatedBackquote => "Syntax error: EOF in backquote substitution"
  | badSubstitution => "Bad substitution"
  | badFunctionName => "Syntax error: Bad function name"
  | badLoopVariable => "Syntax error: Bad for loop variable"
  | missingBrace => "Syntax error: Missing '\x7d'"
  | missingArithmeticEnd => "Syntax error: Missing '))'"

/-- A complaint and the line it is about. -/
structure Fault where
  line : Nat
  complaint : Complaint
deriving DecidableEq, Repr

/-- What is unread of a script. -/
structure Input where
  rest : Text
  line : Nat := 1
  /-- The lines of the documents that have been taken out of the current line. -/
  deferred : Nat := 0
deriving DecidableEq, Repr

/-- Takes what it understands from the front of a script. -/
abbrev Reader := StateT Input (Except Fault)

namespace Reader

/-- Refuses a script. -/
def fail {α : Type} (complaint : Complaint) : Reader α := do
  throw ⟨(← get).line, complaint⟩

/-- What is unread. -/
def rest : Reader Text := do
  return (← get).rest

/-- Takes one character, if there is one. -/
def next? : Reader (Option Char) := do
  let input ← get
  match input.rest with
  | [] => return none
  | '\n' :: rest =>
    set ({ rest, line := input.line + 1 + input.deferred } : Input)
    return some '\n'
  | c :: rest =>
    set { input with rest }
    return some c

/-- Takes so many characters. -/
def skip : Nat → Reader Unit
  | 0 => pure ()
  | n + 1 => do
    let _ ← next?
    skip n

/-- Takes all characters of a class. -/
def takeWhile (p : Char → Bool) : Reader Text := do
  let text := (← rest).takeWhile p
  skip text.length
  return text

/-- Takes given characters if they are there. -/
def tryTake (text : Text) : Reader Bool := do
  if text.isPrefixOf (← rest) then
    skip text.length
    return true
  else return false

/-- Lines are joined where a backslash ends one. -/
def joined : Text := ['\\', '\n']

/-- Whether a character is a blank within a line. -/
def isBlank (c : Char) : Bool :=
  c = ' ' || c = '\t'

/-- Takes blanks, joined lines and a comment; at most so many times. -/
def skipBlanks : Nat → Reader Unit
  | 0 => pure ()
  | n + 1 => do
    let _ ← takeWhile isBlank
    if ← tryTake joined then skipBlanks n
    else if (← rest).head? = some '#' then
      let _ ← takeWhile (· ≠ '\n')

/-- Takes blanks, joined lines and a comment. -/
def blanks : Reader Unit := do
  skipBlanks (← rest).length

/-- Takes blanks and whole lines without commands; at most so many times. -/
def skipLines : Nat → Reader Unit
  | 0 => pure ()
  | n + 1 => do
    blanks
    if ← tryTake ['\n'] then skipLines n

/-- Takes blanks and whole lines without commands. -/
def lines : Reader Unit := do
  skipLines ((← rest).length + 1)

/-- Whether a character ends a word that is not quoted. -/
def isDelimiter (c : Char) : Bool :=
  isBlank c || c = '\n' || c = ';' || c = '&' || c = '|' || c = '<' || c = '>' || c = '(' || c = ')'

/-- Whether a character begins a quotation or an expansion. -/
def isQuoting (c : Char) : Bool :=
  c = '\\' || c = '\'' || c = '"' || c = '$' || c = Char.ofNat 96

/-- The words that have a meaning of their own where a command can begin. -/
def reserved : List String :=
  ["if", "then", "else", "elif", "fi", "while", "until", "do", "done", "for", "in", "case", "esac",
    "\x7b", "\x7d", "!"]

/-- The word with a meaning of its own that comes next, if one does. -/
def keyword? : Reader (Option String) := do
  let rest ← rest
  let word := rest.takeWhile fun c => !isDelimiter c && !isQuoting c
  match rest.drop word.length with
  | c :: _ => if isQuoting c then return none else return reserved.find? (· = String.ofList word)
  | [] => return reserved.find? (· = String.ofList word)

/-- Takes a word with a meaning of its own if it comes next. -/
def tryKeyword (word : String) : Reader Bool := do
  if (← keyword?) = some word then
    skip word.length
    return true
  else return false

/-- How a complaint calls what comes next. -/
def describeNext : Reader String := do
  match ← rest with
  | [] => return "end of file"
  | '\n' :: _ => return "newline"
  | '&' :: '&' :: _ => return "\"&&\""
  | '|' :: '|' :: _ => return "\"||\""
  | ';' :: ';' :: _ => return "\";;\""
  | c :: _ =>
    if c = '<' || c = '>' then return "redirection"
    else if isDelimiter c then return "\"" ++ String.singleton c ++ "\""
    else
      match ← keyword? with
      | some word => return "\"" ++ word ++ "\""
      | none => return "word"

/-- Refuses what comes next. -/
def unexpected {α : Type} (expected? : Option String) : Reader α := do
  fail (.unexpected (← describeNext) expected?)

/-- Takes a word with a meaning of its own that has to come next. -/
def expectKeyword (word : String) : Reader Unit := do
  lines
  if !(← tryKeyword word) then unexpected (some ("\"" ++ word ++ "\""))

/-- Takes a character that has to come next. -/
def expectChar (c : Char) : Reader Unit := do
  blanks
  if !(← tryTake [c]) then unexpected (some ("\"" ++ String.singleton c ++ "\""))

end Reader
end Traversal.Shell
