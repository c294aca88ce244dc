import Traversal.Host.Files
import Traversal.Shell.Builtin
import Traversal.Shell.Reader

/-!
# Running commands

How commands are carried out: words are expanded and split, streams are redirected, and functions, the
shell's own commands and other programs are run.  Every task may go on without end, so all of them count
the steps they may still take; there are more than any script uses.
-/

namespace Traversal.Shell.Run

open Host
open Job

/-! ### Small jobs -/

/-- The time that a command of the shell takes. -/
def commandTime : Nat := 15

/-- Does something of whose failure nobody takes notice. -/
def testing (job : Job Unit) : Job Unit := do
  let isTesting := (← state).isTesting
  change ({ · with isTesting := true })
  let result ← attempt job
  change ({ · with isTesting })
  resume result

/-- Leaves the shell if it is to leave at failures and there has been one. -/
def minding : Job Unit := do
  let s ← state
  if s.status ≠ 0 && s.has .leavesOnFailure && !s.isTesting then leave .shell

/-- Does something inside a repetition. -/
def nested (job : Job Unit) : Job Unit := do
  change fun s => { s with depth := s.depth + 1 }
  let result ← attempt job
  change fun s => { s with depth := s.depth - 1 }
  resume result

/-- What a child forgets of its parent. -/
def begin : Job Unit :=
  change fun s => { s with traps := s.traps.filter fun trap => trap.2.isEmpty }

/-- Waits for a child and takes over its status. -/
def join (child : Nat) : Job Unit := do
  match ← ask (.await (some child) false) with
  | .ended _ status => finish (← Builtin.bury status)
  | _ => finish 127

/-- Gives a stream the number of another one, whose own number is given up. -/
def moveTo (stream target : Nat) : Job Unit := do
  if stream ≠ target then
    let _ ← ask (.copyTo stream target)
    ask (.close stream)

/-- Makes the glyphs of a word in an expansion subject to splitting. -/
def loosen (e : Expansion) : Expansion :=
  e.map fun
    | .bare c => .loose c
    | g => g

/-- The value of a parameter; the arguments together count as one. -/
def valueOf (s : State) (name : Text) : Option Text :=
  if name = ['@'] || name = ['*'] then
    let separator :=
      if name = ['@'] then [' '] else s.separators.take 1
    if s.arguments.isEmpty then none else some (separator.intercalate s.arguments)
  else s.parameter? name

/-- What the value of a parameter adds to a word. -/
def plainValue (s : State) (name : Text) (isQuoted : Bool) : Expansion :=
  if name = ['@'] || (name = ['*'] && !isQuoted) then Expansion.ofTexts isQuoted s.arguments
  else Expansion.ofText isQuoted ((valueOf s name).getD [])

/-- Whether there is a value, where an empty one may count as none. -/
def isGiven (value? : Option Text) (countsEmpty : Bool) : Bool :=
  match value? with
  | some value => !(countsEmpty && value.isEmpty)
  | none => false

/-- Refuses a parameter without a value. -/
def refuseUnset {α : Type} (name : Text) : Job α :=
  abort (name ++ Text.ofString ": parameter not set")

/-- The number of an arithmetic expression. -/
def calculate (text : Text) : Job Text := do
  let s ← state
  let known := s.bindings.filterMap fun (name, v) => v.value.map fun value => (name, value)
  match Arithmetic.evaluate text known with
  | .error fault => abort (fault.message text)
  | .ok (value, values) =>
    (values.take (values.length - known.length)).reverse.forM fun (name, value) =>
      assign name value
    return Text.ofInt value

/-- The output of a command without zeros and without the line breaks at its end. -/
def trimOutput (bytes : Bytes) : Text :=
  let text := (Text.ofBytes bytes).filter (· ≠ '\x00')
  (text.reverse.dropWhile (· = '\n')).reverse

/-! ### Redirections -/

/-- Puts a stream aside and gives the number under which it is kept. -/
def putAside (stream : Nat) : Job (Nat × Option Nat) := do
  return (stream, ← ask (.save stream))

/-- Takes back streams that were put aside. -/
def takeBack (kept : List (Nat × Option Nat)) : Job Unit :=
  kept.forM fun (stream, saved?) => do
    match saved? with
    | some saved => moveTo saved stream
    | none => ask (.close stream)

/-- Whether an error number says that there is no such file. -/
def isAbsence (e : Nat) : Bool :=
  e = 2 || e = 20

/-- Why a file cannot be opened. -/
def openComplaint (mode : OpenMode) (path : Text) (e : Nat) : Text :=
  let reason :=
    if !isAbsence e then osErrorText e
    else if mode = .read then "No such file"
    else "Directory nonexistent"
  Text.ofString (if mode = .read then "cannot open " else "cannot create ") ++ path
    ++ Text.ofString (": " ++ reason)

/-- Gives the file at a path the number of a stream; tells whether that worked. -/
def redirectTo (stream : Nat) (mode : OpenMode) (path : Text) : Job Bool := do
  match ← ask (.openFile path.toBytes mode) with
  | .ok opened =>
    moveTo opened stream
    return true
  | .error e =>
    complain (openComplaint mode path e)
    return false

/-- Gives a stream the number of another one, or closes it; tells whether that worked. -/
def redirectAs (stream : Nat) (source : Text) : Job Bool := do
  if source = ['-'] then
    ask (.close stream)
    return true
  else if Text.isNumeral source then
    if ← ask (.copyTo (Text.toNat source) stream) then return true
    else
      complain (source ++ Text.ofString ": Bad file descriptor")
      return false
  else
    complain (Text.ofString "Bad fd number")
    return false

/-- Lets a stream have a text to read; a child writes it. -/
def redirectFrom (stream : Nat) (text : Text) : Job Bool := do
  let (input, output) ← ask .pipe
  let _ ← fork do
    ask (.close input)
    let _ ← put output text
  ask (.close output)
  moveTo input stream
  return true

/-! ### Other programs -/

/-- The directories in which programs are looked for. -/
def searchPath (s : State) : List Text :=
  ((s.value? (Text.ofString "PATH")).getD (Text.ofString "/bin:/usr/bin")).splitOn ':'

/-- The path of a regular file in one of some directories. -/
def regularIn (name : Text) : List Text → Job (Option Text)
  | [] => return none
  | directory :: rest => do
    let path := if directory.isEmpty then name else directory ++ ['/'] ++ name
    match ← ask (.inspect path.toBytes) with
    | some (.regular _ _) => return some path
    | _ => regularIn name rest

/-- The path of a script that the shell is to run by itself. -/
def sourced (name : Text) : Job Text := do
  if name.contains '/' then return name
  match ← regularIn name (searchPath (← state)) with
  | some path => return path
  | none => abort (Text.ofString ".: " ++ name ++ Text.ofString ": not found")

/-- Turns to the program of a name in one of some directories; gives the error number if it is in none. -/
def search (name : Text) (arguments : List Text) : List Text → Nat → Job Nat
  | [], e => return e
  | directory :: rest, e => do
    let path := if directory.isEmpty then name else directory ++ ['/'] ++ name
    match ← ask (.inspect path.toBytes) with
    | some (.regular _ _) =>
      let e ← execute path name arguments
      if e = 2 || e = 13 then search name arguments rest e else return e
    | _ => search name arguments rest e

/-- Turns to a program; gives the error number if that is impossible. -/
def become (name : Text) (arguments : List Text) : Job Nat := do
  let e ←
    if name.contains '/' then execute name name arguments
    else
      search name arguments (searchPath (← state))
        (if Files.nameLimit < name.toBytes.length then 36 else 2)
  if e = 8 then
    let shell := Text.ofString "/bin/sh"
    execute shell shell (name :: arguments)
  else return e

/-- Turns to a program, or says why not and ends. -/
def becomeOrFail (heading name : Text) (arguments : List Text) : Job Unit := do
  let e ← become name arguments
  let reason := if isAbsence e then "not found" else osErrorText e
  complain (heading ++ name ++ Text.ofString (": " ++ reason))
  finish (if isAbsence e || e = 36 || e = 40 then 127 else 126)
  leave .shell

/-! ### Commands -/

mutual

/-- Expands a word. -/
def expand : Nat → Word → Job Expansion
  | 0, _ => return []
  | _ + 1, [] => return []
  | n + 1, piece :: rest => do
    let first ← expandPiece n piece
    return first ++ (← expand n rest)

/-- Expands a part of a word. -/
def expandPiece : Nat → Piece → Job Expansion
  | 0, _ => return []
  | n + 1, piece => do
    match piece with
    | .plain text => return text.map .bare
    | .quoted text => return .quotation :: text.map .fixed
    | .parameter name action isQuoted => parameter n name action isQuoted
    | .output command isQuoted => return Expansion.ofText isQuoted (← capture n command)
    | .arithmetic expression isQuoted =>
      let e ← expand n expression
      return Expansion.ofText isQuoted (← calculate e.text)

/-- Expands a parameter. -/
def parameter : Nat → Text → Action → Bool → Job Expansion
  | 0, _, _, _ => return []
  | n + 1, name, action, isQuoted => do
    let s ← state
    let value? := valueOf s name
    let isList := name = ['@'] || name = ['*']
    let value := plainValue s name isQuoted
    let word (w : Word) : Job Expansion := do
      let e ← expand n w
      return if isQuoted then .quotation :: e else loosen e
    match action with
    | .value =>
      if value?.isNone && s.has .refusesUnset && !isList then refuseUnset name else return value
    | .length =>
      if value?.isNone && s.has .refusesUnset && !isList then refuseUnset name
      else return Expansion.ofText isQuoted (Text.ofNat (value?.getD []).length)
    | .orElse w countsEmpty => if isGiven value? countsEmpty then return value else word w
    | .assign w countsEmpty =>
      if isGiven value? countsEmpty then return value
      else
        let text := (← expand n w).text
        assign name text
        return Expansion.ofText isQuoted text
    | .demand w countsEmpty =>
      if isGiven value? countsEmpty then return value
      else
        let text := (← expand n w).text
        let reason := if text.isEmpty then Text.ofString "parameter not set" else text
        abort (name ++ [':', ' '] ++ reason)
    | .instead w countsEmpty => if isGiven value? countsEmpty then word w else return []
    | .trim w isAtFront isGreedy =>
      if value?.isNone && s.has .refusesUnset && !isList then refuseUnset name
      else
        let pattern := (← expand n w).pattern
        return Expansion.ofText isQuoted (Pattern.trim pattern isAtFront isGreedy (value?.getD []))

/-- Expands words into fields. -/
def expandAll : Nat → List Word → Job (List Text)
  | 0, _ => return []
  | _ + 1, [] => return []
  | n + 1, word :: rest => do
    let e ← expand n word
    let fields := e.fields (← state).separators
    return fields ++ (← expandAll n rest)

/-- What a command writes to its standard output. -/
def capture : Nat → Command → Job Text
  | 0, _ => return []
  | n + 1, c => do
    let (input, output) ← ask .pipe
    let child ← fork do
      ask (.close input)
      moveTo output 1
      spend n c
    ask (.close output)
    let bytes ← readAll input
    ask (.close input)
    let status := (← state).status
    join child
    change fun s => { s with substituted := some s.status, status }
    return trimOutput bytes

/-- Redirects a stream; tells whether that worked. -/
def redirect : Nat → Redirection → Job Bool
  | 0, _ => return false
  | n + 1, r => do
    match r with
    | .file stream mode path => redirectTo stream mode (← expand n path).text
    | .copy stream source => redirectAs stream (← expand n source).text
    | .document stream content => redirectFrom stream (← expand n content).text

/-- Redirects streams for good; tells whether that worked. -/
def redirectAll : Nat → List Redirection → Job Bool
  | 0, _ => return false
  | _ + 1, [] => return true
  | n + 1, r :: rest => do
    if ← redirect n r then redirectAll n rest else return false

/-- Redirects streams for the time of a job; tells whether that worked. -/
def redirecting : Nat → List Redirection → Job Unit → Job Bool
  | 0, _, _ => return false
  | _ + 1, [], job => do
    job
    return true
  | n + 1, r :: rest, job => do
    let stream :=
      match r with
      | .file stream _ _ => stream
      | .copy stream _ => stream
      | .document stream _ => stream
    let kept ← putAside stream
    let result ← attempt do
      if ← redirect n r then redirecting n rest job else return false
    takeBack [kept]
    resume result

/-- Carries out a command. -/
def run : Nat → Command → Job Unit
  | 0, _ => leave .shell
  | n + 1, c => do
    match c with
    | .nothing => finish 0
    | .simple line assignments words redirections =>
      simple n false line assignments words redirections
      ask (.sleep commandTime)
      react n
      minding
    | .pipeline commands =>
      let children ← stages n commands none
      children.forM join
      minding
    | .negation c =>
      testing (run n c)
      finish (if (← state).status = 0 then 1 else 0)
    | .both c d =>
      testing (run n c)
      if (← state).status = 0 then run n d
    | .either c d =>
      testing (run n c)
      if (← state).status ≠ 0 then run n d
    | .sequence c d =>
      run n c
      run n d
    | .background c =>
      let child ← fork do
        ask (.dispose .int .ignored)
        ask (.dispose .quit .ignored)
        ask (.close 0)
        let _ ← ask (.openFile (Bytes.ofText "/dev/null") .read)
        spend n c
      change ({ · with lastChild := some child })
      finish 0
    | .subshell c =>
      let child ← fork (spend n c)
      join child
      react n
      minding
    | .conditional test yes no =>
      testing (run n test)
      if (← state).status = 0 then run n yes else run n no
    | .loop endsWhenMet test body => nested (loop n endsWhenMet test body 0)
    | .forEach name words? body =>
      match words? with
      | some words => nested (forEach n name (← expandAll n words) body 0)
      | none => nested (forEach n name (← state).arguments body 0)
    | .select word cases =>
      let text := (← expand n word).text
      select n text cases
    | .define name body =>
      change fun s => { s with functions := (name, body) :: s.functions.filter (·.1 ≠ name) }
      finish 0
    | .redirected c redirections =>
      if !(← redirecting n redirections (run n c)) then
        finish 2
        minding

/-- Carries out a command with which the process ends.  If nothing is to be done at the end, a program that
comes last takes the place of the shell. -/
def runLast : Nat → Command → Job Unit
  | 0, _ => leave .shell
  | n + 1, c => do
    if (← state).traps.any fun trap => !trap.2.isEmpty then run n c
    else
      match c with
      | .simple line assignments words redirections =>
        simple n true line assignments words redirections
        ask (.sleep commandTime)
        react n
        minding
      | .both c d =>
        testing (run n c)
        if (← state).status = 0 then runLast n d
      | .either c d =>
        testing (run n c)
        if (← state).status ≠ 0 then runLast n d
      | .sequence c d =>
        run n c
        runLast n d
      | .subshell c => runLast n c
      | .conditional test yes no =>
        testing (run n test)
        if (← state).status = 0 then runLast n yes else runLast n no
      | c => run n c

/-- Carries out a command as a child that does nothing else. -/
def spend : Nat → Command → Job Unit
  | 0, _ => leave .shell
  | n + 1, c => do
    begin
    let _ ← attempt (runLast n c)
    conclude n

/-- Runs what is to be done at the end of a shell. -/
def conclude : Nat → Job Unit
  | 0 => leave .shell
  | n + 1 => do
    let s ← state
    let name := Text.ofString "EXIT"
    match s.traps.lookup name with
    | some action =>
      change fun s => { s with traps := s.traps.filter (·.1 ≠ name) }
      match ← attempt (runText n { rest := action, line := s.line }) with
      | .ok () => finish s.status
      | .error _ => Job.pure ()
    | none => Job.pure ()

/-- Begins the stages of a pipeline, the first of which may read from a pipe; gives their numbers. -/
def stages : Nat → List Command → Option Nat → Job (List Nat)
  | 0, _, _ => return []
  | _ + 1, [], _ => return []
  | n + 1, c :: rest, input? => do
    let connect : Job Unit :=
      match input? with
      | some input => moveTo input 0
      | none => Job.pure ()
    if rest.isEmpty then
      let child ← fork do
        connect
        spend n c
      input?.forM fun input => ask (.close input)
      return [child]
    else
      let (input, output) ← ask .pipe
      let child ← fork do
        connect
        ask (.close input)
        moveTo output 1
        spend n c
      input?.forM fun input => ask (.close input)
      ask (.close output)
      return child :: (← stages n rest (some input))

/-- Repeats a body; the status is that of its last turn. -/
def loop : Nat → Bool → Command → Command → Nat → Job Unit
  | 0, _, _, _, _ => leave .shell
  | n + 1, endsWhenMet, test, body, status => do
    testing (run n test)
    if ((← state).status = 0) = endsWhenMet then finish status
    else
      match ← attempt (run n body) with
      | .ok () => loop n endsWhenMet test body (← state).status
      | .error (.loops k) => if 1 < k then leave (.loops (k - 1))
      | .error (.turn k) =>
        if 1 < k then leave (.turn (k - 1))
        else loop n endsWhenMet test body (← state).status
      | .error how => leave how

/-- Repeats a body for each of some words; the status is that of its last turn. -/
def forEach : Nat → Text → List Text → Command → Nat → Job Unit
  | 0, _, _, _, _ => leave .shell
  | _ + 1, _, [], _, status => finish status
  | n + 1, name, word :: rest, body, _ => do
    assign name word
    match ← attempt (run n body) with
    | .ok () => forEach n name rest body (← state).status
    | .error (.loops k) => if 1 < k then leave (.loops (k - 1))
    | .error (.turn k) =>
      if 1 < k then leave (.turn (k - 1)) else forEach n name rest body (← state).status
    | .error how => leave how

/-- Carries out the first case one of whose patterns stands for a text. -/
def select : Nat → Text → List (List Word × Command) → Job Unit
  | 0, _, _ => leave .shell
  | _ + 1, _, [] => finish 0
  | n + 1, text, (patterns, body) :: rest => do
    if ← matchesAny n text patterns then run n body else select n text rest

/-- Whether one of some patterns stands for a text. -/
def matchesAny : Nat → Text → List Word → Job Bool
  | 0, _, _ => return false
  | _ + 1, _, [] => return false
  | n + 1, text, word :: rest => do
    let pattern := (← expand n word).pattern
    if pattern.accepts text then return true else matchesAny n text rest

/-- Gives variables their values. -/
def assignAll : Nat → List (Text × Word) → Job Unit
  | 0, _ => leave .shell
  | _ + 1, [] => Job.pure ()
  | n + 1, (name, word) :: rest => do
    assign name (← expand n word).text
    assignAll n rest

/-- Carries out a command that is not made of others; the process may end with it. -/
def simple : Nat → Bool → Nat → List (Text × Word) → List Word → List Redirection → Job Unit
  | 0, _, _, _, _, _ => leave .shell
  | n + 1, isLast, line, assignments, words, redirections => do
    change ({ · with line, substituted := none })
    match ← expandAll n words with
    | [] =>
      let isDone ← redirecting n redirections (assignAll n assignments)
      let s ← state
      if s.has .traces && !assignments.isEmpty then
        let texts := assignments.map fun (name, _) => name ++ ['='] ++ (s.value? name).getD []
        let _ ← put 2 (['+', ' '] ++ [' '].intercalate texts ++ ['\n'])
      finish (if isDone then s.substituted.getD 0 else 2)
    | name :: arguments =>
      if (← state).has .traces then
        let _ ← put 2 (['+', ' '] ++ [' '].intercalate (name :: arguments) ++ ['\n'])
      let word := String.ofList name
      if word = "exec" then
        assignAll n assignments
        if ← redirectAll n redirections then
          match arguments with
          | [] => finish 0
          | name :: arguments => becomeOrFail (Text.ofString "exec: ") name arguments
        else
          finish 2
          leave .shell
      else if Builtin.special.contains word then
        assignAll n assignments
        if !(← redirecting n redirections (special n word arguments)) then
          finish 2
          leave .shell
      else
        let s ← state
        match s.functions.lookup name with
        | some body =>
          if !(← redirecting n redirections (call n assignments body arguments)) then finish 2
        | none =>
          match Builtin.find? word with
          | some builtin =>
            let isDone ← redirecting n redirections do
              lending n assignments (do finish (← builtin arguments))
            if !isDone then finish 2
          | none =>
            if word = "command" then
              if !(← redirecting n redirections (directly n assignments arguments)) then finish 2
            else if isLast then turnTo n assignments name arguments redirections
            else external n assignments name arguments redirections

/-- Does something while variables have other values. -/
def lending : Nat → List (Text × Word) → Job Unit → Job Unit
  | 0, _, _ => leave .shell
  | n + 1, assignments, job => do
    let s ← state
    assignAll n assignments
    let result ← attempt job
    change fun t =>
      assignments.foldl (fun t (name, _) =>
        match s.named? name with
        | some v => t.withVariable name v
        | none => t.withoutVariable name) t
    resume result

/-- Carries out a command whose failure ends the shell. -/
def special : Nat → String → List Text → Job Unit
  | 0, _, _ => leave .shell
  | n + 1, word, arguments => do
    if word = "eval" then
      let line := (← state).line
      finish 0
      runText n { rest := [' '].intercalate arguments, line }
    else if word = "." then
      match arguments with
      | [] => finish 0
      | path :: _ =>
        match ← ask (.openFile (← sourced path).toBytes .read) with
        | .error e => abort (Text.ofString ".: " ++ openComplaint .read path e)
        | .ok stream =>
          let bytes ← readAll stream
          ask (.close stream)
          finish 0
          match ← attempt (runText n { rest := Text.ofBytes bytes }) with
          | .error .function => Job.pure ()
          | result => resume result
    else
      match Builtin.find? word with
      | some builtin => finish (← builtin arguments)
      | none => finish 0

/-- Runs a function with arguments of its own. -/
def call : Nat → List (Text × Word) → Command → List Text → Job Unit
  | 0, _, _, _ => leave .shell
  | n + 1, assignments, body, arguments => do
    lending n assignments do
      let outer ← state
      change fun s => { s with arguments, depth := 0, saved := [] :: s.saved }
      let result ← attempt (run n body)
      change fun s =>
        let restored := (s.saved.headD []).foldl (fun (s : State) (name, v?) =>
          match v? with
          | some v => s.withVariable name v
          | none => s.withoutVariable name) s
        { restored with
          arguments := outer.arguments, depth := outer.depth, saved := s.saved.tail }
      match result with
      | .error .function => Job.pure ()
      | result => resume result

/-- Runs a command that is not a function. -/
def directly : Nat → List (Text × Word) → List Text → Job Unit
  | 0, _, _ => leave .shell
  | n + 1, assignments, arguments => do
    match arguments with
    | [] => finish 0
    | ['-', 'v'] :: names =>
      let name := names.headD []
      let s ← state
      if (Builtin.find? (String.ofList name)).isSome || (s.functions.lookup name).isSome
          || Builtin.special.contains (String.ofList name) then
        finish (← Builtin.write "command" (name ++ ['\n']) 0)
      else
        match ← located name (searchPath s) with
        | some path => finish (← Builtin.write "command" (path ++ ['\n']) 0)
        | none => finish 127
    | name :: arguments =>
      match Builtin.find? (String.ofList name) with
      | some builtin => lending n assignments (do finish (← builtin arguments))
      | none => external n assignments name arguments []

/-- The path of a program in one of some directories. -/
def located : Text → List Text → Job (Option Text)
  | _, [] => return none
  | name, directory :: rest => do
    let path := if name.contains '/' then name else directory ++ ['/'] ++ name
    match ← ask (.inspect path.toBytes) with
    | some (.regular _ true) => return some path
    | _ => located name rest

/-- Runs another program and waits for it. -/
def external : Nat → List (Text × Word) → Text → List Text → List Redirection → Job Unit
  | 0, _, _, _, _ => leave .shell
  | n + 1, assignments, name, arguments, redirections => do
    let child ← fork do
      begin
      turnTo n assignments name arguments redirections
    join child

/-- Turns to another program with streams and variables of its own. -/
def turnTo : Nat → List (Text × Word) → Text → List Text → List Redirection → Job Unit
  | 0, _, _, _, _ => leave .shell
  | n + 1, assignments, name, arguments, redirections => do
    if ← redirectAll n redirections then
      assignAll n assignments
      change fun s =>
        assignments.foldl (fun (s : State) (name, _) =>
          s.withVariable name { (s.named? name).getD {} with isExported := true }) s
      becomeOrFail [] name arguments
    else
      finish 2
      leave .shell

/-- Runs what is to be done about the signals that have been caught. -/
def react : Nat → Job Unit
  | 0 => leave .shell
  | n + 1 => do
    let s ← state
    if s.traps.any fun trap => !trap.2.isEmpty && trap.1 ≠ Text.ofString "EXIT" then
      let signals ← ask .caught
      reactTo n signals

/-- Runs what is to be done about signals, one after the other. -/
def reactTo : Nat → List Signal → Job Unit
  | 0, _ => leave .shell
  | _ + 1, [] => Job.pure ()
  | n + 1, signal :: rest => do
    let s ← state
    match s.traps.lookup (Text.ofString signal.name) with
    | some action =>
      runText n { rest := action, line := s.line }
      finish s.status
    | none => Job.pure ()
    reactTo n rest

/-- Runs a text line by line. -/
def runText : Nat → Input → Job Unit
  | 0, _ => leave .shell
  | n + 1, input => do
    match Reader.nextLine input with
    | .error fault =>
      change ({ · with line := fault.line })
      abort (Text.ofString fault.complaint.message)
    | .ok none => Job.pure ()
    | .ok (some (c, rest)) =>
      run n c
      runText n rest

end

/-- Runs the lines of a text of which the last one may be the end of the process. -/
def runToEnd : Nat → Input → Job Unit
  | 0, _ => leave .shell
  | n + 1, input => do
    match Reader.nextLine input with
    | .ok (some (c, { rest := [], .. })) => runLast n c
    | .ok (some (c, rest)) =>
      run n c
      runToEnd n rest
    | _ => runText n input

/-- Runs a script to its end.  Unless its last line has a line break, the shell ends with it. -/
def script (text : Text) (isCommand : Bool) : Job Unit := do
  let process ← ask .identity
  change ({ · with process })
  let runAll := if isCommand && text.getLast? ≠ some '\n' then runToEnd else runText
  let _ ← attempt (runAll endless { rest := text })
  conclude endless

end Traversal.Shell.Run
