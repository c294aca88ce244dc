import Traversal.Shell.Input

/-!
# Reading scripts

The grammar of the shell language.  A word ends at the first character that is neither quoted nor part of
an expansion and that delimits words; a command ends at the end of its line or at a separator.
-/

namespace Traversal.Shell.Reader

/-- Where the parts of a word are read. -/
inductive Place
  /-- In a word of a command. -/
  | bare
  /-- In double quotes. -/
  | quoted
  /-- In the braces of an expansion. -/
  | braced
  /-- In the braces of an expansion in double quotes. -/
  | bracedQuoted
  /-- In a text that is expanded as a whole. -/
  | whole
deriving DecidableEq, Repr

namespace Place

/-- Whether a place ends before a character. -/
def endsBefore (p : Place) (c : Char) : Bool :=
  match p with
  | bare => isDelimiter c
  | quoted => c = '"'
  | braced => c = '\x7d'
  | bracedQuoted => c = '\x7d'
  | whole => false

/-- Whether most characters stand for themselves. -/
def isQuoted (p : Place) : Bool :=
  p = quoted || p = bracedQuoted || p = whole

/-- Whether a backslash takes the meaning from a character. -/
def isEscapable (p : Place) (c : Char) : Bool :=
  !p.isQuoted || c = '$' || c = Char.ofNat 96 || c = '\\' || (c = '"' && p ≠ whole)
    || (c = '\x7d' && p = bracedQuoted)

/-- A part of a word that stands for itself. -/
def literal (p : Place) (text : Text) : Piece :=
  if p.isQuoted then .quoted text else .plain text

end Place

/-- Splits a text behind the two brackets that end an arithmetic expression, inside so many open ones. -/
def splitArithmetic : Nat → Text → Option (Text × Text)
  | _, [] => none
  | 0, ')' :: ')' :: rest => some ([], rest)
  | depth, '(' :: rest => (splitArithmetic (depth + 1) rest).map fun (a, b) => ('(' :: a, b)
  | depth, ')' :: rest => (splitArithmetic (depth - 1) rest).map fun (a, b) => (')' :: a, b)
  | depth, c :: rest => (splitArithmetic depth rest).map fun (a, b) => (c :: a, b)

/-- Splits a text behind the backquote that ends a substitution, whose own backslashes are taken away. -/
def splitBackquote (isQuoted : Bool) : Text → Option (Text × Text)
  | [] => none
  | '\\' :: c :: rest =>
    let isEscape := c = '\\' || c = '$' || c = Char.ofNat 96 || (isQuoted && c = '"')
    (splitBackquote isQuoted rest).map fun (a, b) =>
      (if isEscape then c :: a else '\\' :: c :: a, b)
  | c :: rest =>
    if c = Char.ofNat 96 then some ([], rest)
    else (splitBackquote isQuoted rest).map fun (a, b) => (c :: a, b)

/-- The text of a word that is not expanded. -/
def bareText (word : Word) : Text :=
  word.flatMap fun
    | .plain text => text
    | .quoted text => text
    | _ => []

/-- Whether no part of a word is quoted. -/
def isBare (word : Word) : Bool :=
  word.all fun
    | .plain _ => true
    | _ => false

/-- The first line of a text, and the rest if there is a line break. -/
def splitLine (text : Text) : Text × Option Text :=
  let line := text.takeWhile (· ≠ '\n')
  match text.drop line.length with
  | [] => (line, none)
  | _ :: rest => (line, some rest)

/-- The lines of a document up to its delimiter, and what is behind it. -/
def splitDocument (delimiter : Text) (dropsTabs : Bool) : Nat → Text → List Text × Text
  | 0, text => ([], text)
  | n + 1, text =>
    if text.isEmpty then ([], [])
    else
      let (line, rest?) := splitLine text
      let line := if dropsTabs then line.dropWhile (· = '\t') else line
      if line = delimiter then ([], rest?.getD [])
      else
        let (lines, rest) := splitDocument delimiter dropsTabs n (rest?.getD [])
        ((line ++ ['\n']) :: lines, rest)

/-- Takes the lines of a document out of the text behind the current line. -/
def document (delimiter : Text) (dropsTabs : Bool) : Reader Text := do
  let input ← get
  let (line, rest?) := splitLine input.rest
  let (lines, rest) := splitDocument delimiter dropsTabs input.rest.length (rest?.getD [])
  set { input with
    rest := line ++ (if rest?.isSome then '\n' :: rest else [])
    deferred := input.deferred + lines.length + 1 }
  return lines.flatten

/-- Reads from another text in between. -/
def within {α : Type} (text : Text) (reader : Reader α) : Reader α := do
  match reader.run { rest := text, line := (← get).line } with
  | .ok (a, _) => return a
  | .error fault => throw fault

/-- The parameters that are not names. -/
def specialNames : Text :=
  ['@', '*', '#', '?', '-', '$', '!', '0', '1', '2', '3', '4', '5', '6', '7', '8', '9']

/-- Takes the name of a parameter; inside braces a number may have several digits. -/
def parameterName (isBraced : Bool) : Reader (Option Text) := do
  match ← rest with
  | [] => return none
  | c :: _ =>
    if isNameStart c then return some (← takeWhile isNamePart)
    else if isBraced && c.isDigit then return some (← takeWhile Char.isDigit)
    else if specialNames.contains c then
      skip 1
      return some [c]
    else return none

/-- Refuses an empty list of commands. -/
def required (c : Command) : Reader Command :=
  match c with
  | .nothing => unexpected none
  | c => return c

/-- One command behind another. -/
def follow (c d : Command) : Command :=
  match d with
  | .nothing => c
  | d => .sequence c d

/-- Splits a word at the equals sign of an assignment. -/
def assignment? (word : Word) : Option (Text × Word) :=
  match word with
  | .plain text :: rest =>
    let name := text.takeWhile (· ≠ '=')
    match text.drop name.length with
    | _ :: value =>
      if isName name then some (name, if value.isEmpty then rest else .plain value :: rest) else none
    | [] => none
  | _ => none

/-- What an operator makes of the value of a parameter. -/
def action? (operator : Char) (word : Word) (countsEmpty : Bool) : Option Action :=
  match operator with
  | '-' => some (.orElse word countsEmpty)
  | '=' => some (.assign word countsEmpty)
  | '?' => some (.demand word countsEmpty)
  | '+' => some (.instead word countsEmpty)
  | _ => none

mutual

/-- Takes the parts of a word up to the end of its place. -/
def pieces : Nat → Place → Reader Word
  | 0, _ => fail .badSubstitution
  | n + 1, place => do
    match ← rest with
    | [] =>
      if place = .bare || place = .whole then return []
      else if place = .quoted then fail .unterminatedQuote
      else fail .missingBrace
    | c :: behind =>
      if place.endsBefore c then return []
      else if c = '\\' then
        match behind with
        | '\n' :: _ =>
          skip 2
          pieces n place
        | d :: _ =>
          if place.isEscapable d then
            skip 2
            return .quoted [d] :: (← pieces n place)
          else
            skip 1
            return .quoted ['\\'] :: (← pieces n place)
        | [] =>
          skip 1
          return [.quoted ['\\']]
      else if c = '\'' && !place.isQuoted then
        skip 1
        let text ← takeWhile (· ≠ '\'')
        if !(← tryTake ['\'']) then fail .unterminatedQuote
        return .quoted text :: (← pieces n place)
      else if c = '"' && place ≠ .whole then
        skip 1
        let inner ← pieces n .quoted
        skip 1
        return (if inner.isEmpty then [.quoted []] else inner) ++ (← pieces n place)
      else if c = '$' then
        skip 1
        let piece ← dollar n place
        return piece :: (← pieces n place)
      else if c = Char.ofNat 96 then
        skip 1
        let piece ← backquote n place
        return piece :: (← pieces n place)
      else
        let text ← takeWhile fun c => !place.endsBefore c && !isQuoting c
        if text.isEmpty then
          skip 1
          return place.literal [c] :: (← pieces n place)
        else return place.literal text :: (← pieces n place)

/-- Takes an expansion behind its dollar sign. -/
def dollar : Nat → Place → Reader Piece
  | 0, _ => fail .badSubstitution
  | n + 1, place => do
    match ← rest with
    | '(' :: '(' :: behind =>
      match splitArithmetic 0 behind with
      | none => fail .missingArithmeticEnd
      | some (text, _) =>
        skip (text.length + 4)
        return .arithmetic (← within text (pieces n .whole)) place.isQuoted
    | '(' :: _ =>
      skip 1
      let body ← list n false
      lines
      expectChar ')'
      return .output body place.isQuoted
    | '\x7b' :: _ =>
      skip 1
      braces n place
    | _ =>
      match ← parameterName false with
      | some name => return .parameter name .value place.isQuoted
      | none => return place.literal ['$']

/-- Takes an expansion behind its opening brace. -/
def braces : Nat → Place → Reader Piece
  | 0, _ => fail .badSubstitution
  | n + 1, place => do
    let behind ← rest
    if behind.head? = some '#' && behind.tail.head? ≠ some '\x7d' then
      skip 1
      match ← parameterName true with
      | some name =>
        if ← tryTake ['\x7d'] then return .parameter name .length place.isQuoted
        else fail .badSubstitution
      | none => fail .badSubstitution
    else
      match ← parameterName true with
      | none => fail (if behind.isEmpty then .missingBrace else .badSubstitution)
      | some name =>
        let action ← operation n place
        if ← tryTake ['\x7d'] then return .parameter name action place.isQuoted
        else fail .missingBrace

/-- Takes what is made of a parameter, behind its name. -/
def operation : Nat → Place → Reader Action
  | 0, _ => fail .badSubstitution
  | n + 1, place => do
    let inner := if place.isQuoted then Place.bracedQuoted else .braced
    match ← rest with
    | '\x7d' :: _ => return .value
    | '%' :: '%' :: _ =>
      skip 2
      return .trim (← pieces n .braced) false true
    | '%' :: _ =>
      skip 1
      return .trim (← pieces n .braced) false false
    | '#' :: '#' :: _ =>
      skip 2
      return .trim (← pieces n .braced) true true
    | '#' :: _ =>
      skip 1
      return .trim (← pieces n .braced) true false
    | ':' :: c :: _ =>
      skip 2
      match action? c (← pieces n inner) true with
      | some action => return action
      | none => fail .badSubstitution
    | c :: _ =>
      skip 1
      match action? c (← pieces n inner) false with
      | some action => return action
      | none => fail .badSubstitution
    | [] => fail .missingBrace

/-- Takes a substitution behind its backquote. -/
def backquote : Nat → Place → Reader Piece
  | 0, _ => fail .badSubstitution
  | n + 1, place => do
    let behind ← rest
    match splitBackquote place.isQuoted behind with
    | none => fail .unterminatedBackquote
    | some (text, after) =>
      skip (behind.length - after.length)
      return .output (← within text (list n false)) place.isQuoted

/-- Takes commands up to something that cannot begin one, or up to the end of the line. -/
def list : Nat → Bool → Reader Command
  | 0, _ => fail .badSubstitution
  | n + 1, endsWithLine => do
    if endsWithLine then blanks else lines
    let isOver ← do
      match ← rest with
      | [] => pure true
      | '\n' :: _ => pure true
      | ')' :: _ => pure true
      | ';' :: ';' :: _ => pure true
      | _ =>
        match ← keyword? with
        | some word => pure (["then", "else", "elif", "fi", "do", "done", "esac", "\x7d"].contains word)
        | none => pure false
    if isOver then return .nothing
    let c ← chain n (← pipeline n)
    blanks
    match ← rest with
    | ';' :: ';' :: _ => return c
    | ';' :: _ =>
      skip 1
      return follow c (← list n endsWithLine)
    | '&' :: _ =>
      skip 1
      return follow (.background c) (← list n endsWithLine)
    | '\n' :: _ => if endsWithLine then return c else return follow c (← list n endsWithLine)
    | _ => return c

/-- Takes the commands that depend on how those before them ended. -/
def chain : Nat → Command → Reader Command
  | 0, _ => fail .badSubstitution
  | n + 1, c => do
    blanks
    if ← tryTake ['&', '&'] then
      lines
      chain n (.both c (← pipeline n))
    else if ← tryTake ['|', '|'] then
      lines
      chain n (.either c (← pipeline n))
    else return c

/-- Takes commands that are connected by pipes. -/
def pipeline : Nat → Reader Command
  | 0 => fail .badSubstitution
  | n + 1 => do
    blanks
    if ← tryKeyword "!" then
      return .negation (← pipeline n)
    else
      let first ← command n
      let rest ← stages n
      return if rest.isEmpty then first else .pipeline (first :: rest)

/-- Takes the further commands that are connected by pipes. -/
def stages : Nat → Reader (List Command)
  | 0 => fail .badSubstitution
  | n + 1 => do
    blanks
    match ← rest with
    | '|' :: '|' :: _ => return []
    | '|' :: _ =>
      skip 1
      lines
      let c ← command n
      return c :: (← stages n)
    | _ => return []

/-- Takes one command. -/
def command : Nat → Reader Command
  | 0 => fail .badSubstitution
  | n + 1 => do
    blanks
    let line := (← get).line
    if ← tryTake ['('] then
      let body ← required (← list n false)
      lines
      expectChar ')'
      redirected n (.subshell body)
    else if ← tryKeyword "\x7b" then
      let body ← required (← list n false)
      expectKeyword "\x7d"
      redirected n body
    else if ← tryKeyword "if" then redirected n (← conditional n)
    else if ← tryKeyword "while" then redirected n (← loop n false)
    else if ← tryKeyword "until" then redirected n (← loop n true)
    else if ← tryKeyword "for" then redirected n (← forEach n)
    else if ← tryKeyword "case" then redirected n (← select n)
    else
      match ← keyword? with
      | some _ => unexpected none
      | none => simple n line [] [] []

/-- Takes the redirections of a command that is made of others. -/
def redirected : Nat → Command → Reader Command
  | 0, _ => fail .badSubstitution
  | n + 1, c => do
    let redirections ← redirections n
    return if redirections.isEmpty then c else .redirected c redirections

/-- Takes redirections. -/
def redirections : Nat → Reader (List Redirection)
  | 0 => fail .badSubstitution
  | n + 1 => do
    blanks
    match ← redirection? n with
    | some r => return r :: (← redirections n)
    | none => return []

/-- Takes a choice behind its first word. -/
def conditional : Nat → Reader Command
  | 0 => fail .badSubstitution
  | n + 1 => do
    let test ← required (← list n false)
    expectKeyword "then"
    let yes ← required (← list n false)
    lines
    if ← tryKeyword "elif" then return .conditional test yes (← conditional n)
    else if ← tryKeyword "else" then
      let no ← required (← list n false)
      expectKeyword "fi"
      return .conditional test yes no
    else
      expectKeyword "fi"
      return .conditional test yes .nothing

/-- Takes the test and the body of a repetition. -/
def loop : Nat → Bool → Reader Command
  | 0, _ => fail .badSubstitution
  | n + 1, endsWhenMet => do
    let test ← required (← list n false)
    return .loop endsWhenMet test (← body n)

/-- Takes the body of a repetition. -/
def body : Nat → Reader Command
  | 0 => fail .badSubstitution
  | n + 1 => do
    expectKeyword "do"
    let body ← required (← list n false)
    expectKeyword "done"
    return body

/-- Takes a repetition for each of some words, behind its first word. -/
def forEach : Nat → Reader Command
  | 0 => fail .badSubstitution
  | n + 1 => do
    blanks
    let name ← takeWhile isNamePart
    if !isName name then fail .badLoopVariable
    lines
    if ← tryKeyword "in" then
      let words ← words n
      blanks
      let _ ← tryTake [';']
      return .forEach name (some words) (← body n)
    else
      let _ ← tryTake [';']
      return .forEach name none (← body n)

/-- Takes words up to the end of a command. -/
def words : Nat → Reader (List Word)
  | 0 => fail .badSubstitution
  | n + 1 => do
    blanks
    let word ← pieces n .bare
    if word.isEmpty then return [] else return word :: (← words n)

/-- Takes a choice by patterns, behind its first word. -/
def select : Nat → Reader Command
  | 0 => fail .badSubstitution
  | n + 1 => do
    blanks
    let word ← pieces n .bare
    if word.isEmpty then unexpected (some "word")
    expectKeyword "in"
    return .select word (← cases n)

/-- Takes the cases of a choice by patterns, and the word behind them. -/
def cases : Nat → Reader (List (List Word × Command))
  | 0 => fail .badSubstitution
  | n + 1 => do
    lines
    if ← tryKeyword "esac" then return []
    else
      let _ ← tryTake ['(']
      let patterns ← patterns n
      let body ← list n false
      lines
      if ← tryTake [';', ';'] then return (patterns, body) :: (← cases n)
      else
        expectKeyword "esac"
        return [(patterns, body)]

/-- Takes the patterns of a case. -/
def patterns : Nat → Reader (List Word)
  | 0 => fail .badSubstitution
  | n + 1 => do
    blanks
    let word ← pieces n .bare
    if word.isEmpty then unexpected none
    blanks
    if ← tryTake ['|'] then return word :: (← patterns n)
    else
      expectChar ')'
      return [word]

/-- Takes a redirection if one comes next. -/
def redirection? : Nat → Reader (Option Redirection)
  | 0 => fail .badSubstitution
  | n + 1 => do
    let text ← rest
    let digits := text.takeWhile Char.isDigit
    let stream (standard : Nat) : Nat := if digits.isEmpty then standard else Text.toNat digits
    let target (k : Nat) : Reader Word := do
      skip (digits.length + k)
      blanks
      let word ← pieces n .bare
      if word.isEmpty then unexpected none else return word
    match text.drop digits.length with
    | '<' :: '<' :: '-' :: _ =>
      return some (.document (stream 0) (← documentParts n (← target 3) true))
    | '<' :: '<' :: _ => return some (.document (stream 0) (← documentParts n (← target 2) false))
    | '<' :: '&' :: _ => return some (.copy (stream 0) (← target 2))
    | '<' :: '>' :: _ => return some (.file (stream 0) .update (← target 2))
    | '<' :: _ => return some (.file (stream 0) .read (← target 1))
    | '>' :: '>' :: _ => return some (.file (stream 1) .append (← target 2))
    | '>' :: '&' :: _ => return some (.copy (stream 1) (← target 2))
    | '>' :: '|' :: _ => return some (.file (stream 1) .replace (← target 2))
    | '>' :: _ => return some (.file (stream 1) .replace (← target 1))
    | _ => return none

/-- Takes the parts of a document with a delimiter; if the delimiter is quoted, nothing is expanded. -/
def documentParts : Nat → Word → Bool → Reader Word
  | 0, _, _ => fail .badSubstitution
  | n + 1, delimiter, dropsTabs => do
    let text ← document (bareText delimiter) dropsTabs
    if isBare delimiter then within text (pieces n .whole) else return [.quoted text]

/-- Takes a command that is not made of others, behind the parts that have been read. -/
def simple : Nat → Nat → List (Text × Word) → List Word → List Redirection → Reader Command
  | 0, _, _, _, _ => fail .badSubstitution
  | n + 1, line, assignments, words, redirections => do
    blanks
    match ← redirection? n with
    | some r => simple n line assignments words (redirections ++ [r])
    | none =>
      let word ← pieces n .bare
      if word.isEmpty then
        if assignments.isEmpty && words.isEmpty && redirections.isEmpty then unexpected none
        else return .simple line assignments words redirections
      else
        match if words.isEmpty then assignment? word else none with
        | some entry => simple n line (assignments ++ [entry]) words redirections
        | none =>
          blanks
          let isFirst := assignments.isEmpty && words.isEmpty && redirections.isEmpty
          if isFirst && (← rest).head? = some '(' then
            skip 1
            expectChar ')'
            lines
            if isBare word && isName (bareText word) then
              return .define (bareText word) (← command n)
            else fail .badFunctionName
          else simple n line assignments (words ++ [word]) redirections

end

/-- The commands on the next line of a script that has any, and what is unread then; nothing at the end. -/
def nextLine (input : Input) : Except Fault (Option (Command × Input)) := do
  let ((), input) ← lines.run input
  if input.rest.isEmpty then return none
  else
    let reader : Reader Command := do
      let c ← required (← list (8 * input.rest.length + 64) true)
      match ← rest with
      | [] => return c
      | '\n' :: _ => return c
      | _ => unexpected none
    return some (← reader.run input)

end Traversal.Shell.Reader
