import Traversal.Shell.Condition
import Traversal.Shell.Field
import Traversal.Shell.Format

/-!
# The shell's own commands

The commands that a shell carries out itself, without another program, except those that run further
commands.
-/

namespace Traversal.Shell.Builtin

open Host
open Job

/-- Says what is wrong with a command. -/
def complainAs (name : String) (text : Text) : Job Nat := do
  complain (Text.ofString (name ++ ": ") ++ text)
  return 2

/-- Says what is wrong with a command and ends the shell. -/
def abortAs {α : Type} (name : String) (text : Text) : Job α :=
  abort (Text.ofString (name ++ ": ") ++ text)

/-- Writes to the standard output. -/
def write (name : String) (text : Text) (status : Nat) : Job Nat := do
  if ← put 1 text then return status
  else
    complain (Text.ofString (name ++ ": " ++ name ++ ": I/O error"))
    return 1

/-! ### Output and tests -/

/-- Writes its arguments. -/
def echo (arguments : List Text) : Job Nat :=
  write "echo" (Format.echo arguments) 0

/-- Writes its arguments as a format says. -/
def printf (arguments : List Text) : Job Nat := do
  match if arguments.head? = some ['-', '-'] then arguments.tail else arguments with
  | [] => complainAs "printf" (Text.ofString "usage: printf format [arg ...]")
  | format :: arguments =>
    let (text, complaints, isBroken) := Format.printf format arguments
    let status ← write "printf" text (if complaints.isEmpty then 0 else 1)
    complaints.forM fun text => complain (Text.ofString "printf: " ++ text)
    return if isBroken then 2 else status

/-- Decides on a condition. -/
def test (name : String) (arguments : List Text) : Job Nat := do
  match ← Condition.decide arguments with
  | .ok true => return 0
  | .ok false => return 1
  | .error fault => complainAs name fault.message

/-- Decides on a condition in brackets. -/
def bracket (arguments : List Text) : Job Nat :=
  if arguments.getLast? = some [']'] then test "[" arguments.dropLast
  else complainAs "[" Condition.Fault.missingBracket.message

/-! ### Input -/

/-- The characters of the next line, each with whether it was escaped, and whether the line is whole; reads
at most so many characters. -/
def readLine (isRaw : Bool) : Nat → List (Char × Bool) → Job (List (Char × Bool) × Bool)
  | 0, charsRev => return (charsRev.reverse, false)
  | n + 1, charsRev => do
    match ← ask (.read 0 1) with
    | .ok [b] =>
      let c := Char.ofNat b.toNat
      if c = '\n' then return (charsRev.reverse, true)
      else if c = '\x00' then readLine isRaw n charsRev
      else if c = '\\' && !isRaw then
        match ← ask (.read 0 1) with
        | .ok [b] =>
          if b = Bytes.newline then readLine isRaw n charsRev
          else readLine isRaw n ((Char.ofNat b.toNat, true) :: charsRev)
        | _ => return (charsRev.reverse, false)
      else readLine isRaw n ((c, false) :: charsRev)
    | _ => return (charsRev.reverse, false)

/-- Whether a character separates fields, and is a blank. -/
def isBlankSeparator (separators : Text) (c : Char × Bool) : Bool :=
  !c.2 && separators.contains c.1 && (c.1 = ' ' || c.1 = '\t' || c.1 = '\n')

/-- Whether a character separates fields. -/
def isSeparator (separators : Text) (c : Char × Bool) : Bool :=
  !c.2 && separators.contains c.1

/-- Divides a line among so many variables; the last one gets all that is left. -/
def divide (separators : Text) : Nat → List (Char × Bool) → List Text
  | 0, _ => []
  | 1, chars =>
    let chars := chars.dropWhile (isBlankSeparator separators)
    [(chars.reverse.dropWhile (isBlankSeparator separators)).reverse.map (·.1)]
  | n + 1, chars =>
    let chars := chars.dropWhile (isBlankSeparator separators)
    let field := chars.takeWhile fun c => !isSeparator separators c
    let rest := (chars.drop field.length).dropWhile (isBlankSeparator separators)
    let rest :=
      match rest with
      | c :: behind => if isSeparator separators c then behind else rest
      | [] => []
    field.map (·.1) :: divide separators n rest

/-- Reads a line into variables. -/
def read (arguments : List Text) : Job Nat := do
  let flags := arguments.takeWhile fun a => a.head? = some '-' && 1 < a.length
  let names := arguments.drop flags.length
  if names.isEmpty then complainAs "read" (Text.ofString "arg count")
  else
    let (chars, isWhole) ← readLine (flags.any (·.contains 'r')) endless []
    let fields := divide (← state).separators names.length chars
    (names.zip fields).forM fun (name, value) => assign name value
    return if isWhole then 0 else 1

/-! ### Variables, arguments and options -/

/-- A name and the value it is given, if any. -/
def splitAssignment (argument : Text) : Text × Option Text :=
  let name := argument.takeWhile (· ≠ '=')
  match argument.drop name.length with
  | [] => (name, none)
  | _ :: value => (name, some value)

/-- Marks variables, which may be given values. -/
def mark (command : String) (f : Variable → Variable) (arguments : List Text) : Job Nat := do
  arguments.forM fun argument => do
    if argument ≠ ['-', 'p'] && argument ≠ ['-', '-'] then
      let (name, value?) := splitAssignment argument
      if !isName name then abortAs command (name ++ Text.ofString ": bad variable name")
      else
        match value? with
        | some value => assign name value
        | none => Job.pure ()
        change fun s => s.withVariable name (f ((s.named? name).getD {}))
  return 0

/-- Keeps variables for the time of a function. -/
def keep (arguments : List Text) : Job Nat := do
  if (← state).saved.isEmpty then abortAs "local" (Text.ofString "not in a function")
  arguments.forM fun argument => do
    let (name, value?) := splitAssignment argument
    if !isName name then abortAs "local" (name ++ Text.ofString ": bad variable name")
    else
      change fun s =>
        match s.saved with
        | frame :: rest =>
          if frame.any (·.1 = name) then s
          else { s with saved := ((name, s.named? name) :: frame) :: rest }
        | [] => s
      match value? with
      | some value => assign name value
      | none => Job.pure ()
  return 0

/-- Forgets variables or functions. -/
def unset (arguments : List Text) : Job Nat := do
  let isFunction := arguments.head? = some ['-', 'f']
  let names := arguments.filter fun a => a.head? ≠ some '-'
  names.forM fun name => do
    if isFunction then change fun s => { s with functions := s.functions.filter (·.1 ≠ name) }
    else if !isName name then abortAs "unset" (name ++ Text.ofString ": bad variable name")
    else if ((← state).named? name).any (·.isConstant) then
      abortAs "unset" (name ++ Text.ofString ": is read only")
    else change (·.withoutVariable name)
  return 0

/-- Drops arguments from the front. -/
def shift (arguments : List Text) : Job Nat := do
  let count := (arguments.head?.map Text.toNat).getD 1
  if (← state).arguments.length < count then abortAs "shift" (Text.ofString "can't shift that many")
  else
    change fun s => { s with arguments := s.arguments.drop count }
    return 0

/-- The options of a shell by their names and letters; some have none. -/
def switchNames : List (String × Option Char) :=
  [("errexit", some 'e'), ("noglob", some 'f'), ("ignoreeof", some 'I'), ("interactive", some 'i'),
    ("monitor", some 'm'), ("noexec", some 'n'), ("stdin", some 's'), ("xtrace", some 'x'),
    ("verbose", some 'v'), ("vi", some 'V'), ("emacs", some 'E'), ("noclobber", some 'C'),
    ("allexport", some 'a'), ("notify", some 'b'), ("nounset", some 'u'), ("privileged", some 'p'),
    ("nolog", none), ("debug", none)]

/-- Turns an option on or off by its letter; tells whether there is such an option. -/
def turnLetter (isOn : Bool) (letter : Char) : Job Bool := do
  if !switchNames.any (·.2 = some letter) then return false
  match [Switch.leavesOnFailure, .refusesUnset, .traces].find? (·.letter = letter) with
  | some switch =>
    change fun s =>
      let others := s.switches.erase switch
      { s with switches := if isOn then switch :: others else others }
  | none => Job.pure ()
  return true

/-- Turns an option on or off by its name; tells whether there is such an option. -/
def turnName (isOn : Bool) (name : Text) : Job Bool := do
  match switchNames.lookup (String.ofList name) with
  | some (some letter) => turnLetter isOn letter
  | some none => return true
  | none => return false

/-- The list of all options, given which are on by their letters. -/
def switchList (isOn : Option Char → Bool) : Text :=
  Text.ofString "Current option settings\n" ++ switchNames.flatMap fun (name, letter?) =>
    Text.ofString name ++ List.replicate (16 - name.length) ' '
      ++ Text.ofString (if isOn letter? then "on\n" else "off\n")

/-- Turns options on and off and sets the arguments. -/
def set : List Text → Job Nat
  | [] => return 0
  | ['-', '-'] :: rest => do
    change ({ · with arguments := rest })
    return 0
  | [_, 'o'] :: [] => do
    let s ← state
    write "set" (switchList (·.any fun c => s.switches.any (·.letter = c))) 0
  | ['-', 'o'] :: name :: rest => do
    if ← turnName true name then set rest
    else abortAs "set" (Text.ofString "Illegal option -o " ++ name)
  | ['+', 'o'] :: name :: rest => do
    if ← turnName false name then set rest
    else abortAs "set" (Text.ofString "Illegal option +o " ++ name)
  | ('-' :: letters) :: rest => do
    letters.forM fun c => do
      if !(← turnLetter true c) then abortAs "set" (Text.ofString "Illegal option -" ++ [c])
    set rest
  | ('+' :: letters) :: rest => do
    letters.forM fun c => do
      if !(← turnLetter false c) then abortAs "set" (Text.ofString "Illegal option +" ++ [c])
    set rest
  | rest => do
    change ({ · with arguments := rest })
    return 0

/-! ### Signals and processes -/

/-- The name of a signal, or of the end of the shell, from its name or number. -/
def conditionName? (text : Text) : Option Text :=
  if Text.isNumeral text then
    if Text.toNat text = 0 then some (Text.ofString "EXIT")
    else (Signal.ofNumber? (Text.toNat text)).map fun s => Text.ofString s.name
  else
    let name := text.map Char.toUpper
    if name = Text.ofString "EXIT" then some name
    else (Signal.ofName? (String.ofList name)).map fun s => Text.ofString s.name

/-- Says what to do about a signal, or at the end. -/
def trapOne (action? : Option Text) (condition : Text) : Job Nat := do
  match conditionName? condition with
  | none =>
    let _ ← put 2 (Text.ofString "trap: " ++ condition ++ Text.ofString ": bad trap\n")
    return 1
  | some name =>
    change fun s =>
      let others := s.traps.filter (·.1 ≠ name)
      { s with traps := match action? with
        | some action => (name, action) :: others
        | none => others }
    match Signal.ofName? (String.ofList name) with
    | some signal =>
      ask (.dispose signal
        (match action? with
          | none => .default
          | some [] => .ignored
          | some _ => .caught))
    | none => Job.pure ()
    return 0

/-- Says what to do about several signals. -/
def trapAll (action? : Option Text) : List Text → Nat → Job Nat
  | [], status => return status
  | condition :: rest, status => do
    let status' ← trapOne action? condition
    trapAll action? rest (max status status')

/-- Says what to do about signals. -/
def trap (arguments : List Text) : Job Nat := do
  match if arguments.head? = some ['-', '-'] then arguments.tail else arguments with
  | [] =>
    let lines := (← state).traps.map fun (name, action) =>
      Text.ofString "trap -- '" ++ action ++ Text.ofString "' " ++ name ++ ['\n']
    write "trap" lines.flatten 0
  | [condition] => trapAll none [condition] 0
  | ['-'] :: conditions => trapAll none conditions 0
  | action :: conditions =>
    if Text.isNumeral action then trapAll none (action :: conditions) 0
    else trapAll (some action) conditions 0

/-- The signal of a name or a number; zero is no signal. -/
def signal? (text : Text) : Option (Option Signal) :=
  if Text.isNumeral text then
    if Text.toNat text = 0 then some none else (Signal.ofNumber? (Text.toNat text)).map some
  else (Signal.ofName? (String.ofList (text.map Char.toUpper))).map some

/-- Sends a signal to processes. -/
def sendAll (signal? : Option Signal) : List Text → Nat → Job Nat
  | [], status => return status
  | target :: rest, status => do
    if Text.isNumeral target then
      let isThere ← ask (.send (Text.toNat target) (signal?.getD .cont))
      if isThere then sendAll signal? rest status
      else
        complain (Text.ofString "kill: No such process\n")
        sendAll signal? rest 1
    else
      let status ← complainAs "kill" (Text.ofString "Illegal number: " ++ target)
      sendAll signal? rest status

/-- Says how signals are sent. -/
def explainKill : Job Nat :=
  complainAs "kill" (Text.ofString
    "Usage: kill [-s sigspec | -signum | -sigspec] [pid | job]... or\nkill -l [exitstatus]")

/-- Writes the names of all signals, or the one that a status stands for. -/
def listSignals : List Text → Job Nat
  | [] =>
    write "kill" (['0', '\n'] ++ (Signal.all.map fun s => Text.ofString s.name ++ ['\n']).flatten) 0
  | status :: _ =>
    let n := Text.toNat status
    match Signal.ofNumber? (if 128 < n then n - 128 else n) with
    | some s => write "kill" (Text.ofString s.name ++ ['\n']) 0
    | none => complainAs "kill" (Text.ofString "Illegal number: " ++ status)

/-- Sends a signal. -/
def kill (arguments : List Text) : Job Nat := do
  let send (name : Text) (complaint : Text) (targets : List Text) : Job Nat :=
    match signal? name with
    | some signal? => if targets.isEmpty then explainKill else sendAll signal? targets 0
    | none => complainAs "kill" complaint
  match arguments with
  | ['-', 's'] :: name :: targets =>
    send name (Text.ofString "invalid signal number or name: " ++ name) targets
  | ['-', 'l'] :: statuses => listSignals statuses
  | ['-', '-'] :: targets => send (Text.ofString "TERM") [] targets
  | ('-' :: name) :: targets => send name (Text.ofString "Illegal option -" ++ name.take 1) targets
  | targets => send (Text.ofString "TERM") [] targets

/-- The status of a shell command for the end of a process. -/
def statusOf (status : Engine.WaitStatus) : Nat :=
  match status.code? with
  | some code => code
  | none => 128 + (status.word &&& 127).toNat

/-- What is said of a process that a signal has ended. -/
def obituary? (signal : Nat) : Option String :=
  match Signal.ofNumber? signal with
  | some .hup => some "Hangup"
  | some .quit => some "Quit"
  | some .ill => some "Illegal instruction"
  | some .trap => some "Trace/breakpoint trap"
  | some .abrt => some "Aborted"
  | some .bus => some "Bus error"
  | some .fpe => some "Floating point exception"
  | some .kill => some "Killed"
  | some .usr1 => some "User defined signal 1"
  | some .segv => some "Segmentation fault"
  | some .usr2 => some "User defined signal 2"
  | some .alrm => some "Alarm clock"
  | some .term => some "Terminated"
  | some .stkflt => some "Stack fault"
  | some .xcpu => some "CPU time limit exceeded"
  | some .xfsz => some "File size limit exceeded"
  | some .vtalrm => some "Virtual timer expired"
  | some .prof => some "Profiling timer expired"
  | some .io => some "I/O possible"
  | some .pwr => some "Power failure"
  | some .sys => some "Bad system call"
  | some (.realTime offset) =>
    let rank := offset.val - 2
    some (if offset.val < 2 then s!"Unknown signal {signal}" else s!"Real-time signal {rank}")
  | _ => none

/-- Says that a signal has ended a child, and gives its status. -/
def bury (status : Engine.WaitStatus) : Job Nat := do
  if status.code?.isNone then
    match obituary? (status.word &&& 127).toNat with
    | some text =>
      let _ ← put 2 (Text.ofString text ++ ['\n'])
    | none => Job.pure ()
  return statusOf status

/-- Waits for all children, at most so many. -/
def waitAll : Nat → Job Nat
  | 0 => return 0
  | n + 1 => do
    match ← ask (.await none true) with
    | .ended _ _ => waitAll n
    | .interrupted signal => return 128 + signal.number
    | .childless => return 0

/-- Waits for children. -/
def wait : List Text → Nat → Job Nat
  | [], status => return status
  | target :: rest, _ => do
    match ← ask (.await (some (Text.toNat target)) true) with
    | .ended _ status => wait rest (← bury status)
    | .interrupted signal => return 128 + signal.number
    | .childless => wait rest 127

/-! ### Leaving -/

/-- The status that an argument gives, or the last one. -/
def statusArgument (command : String) (arguments : List Text) : Job Nat := do
  match arguments with
  | [] => return (← state).status
  | a :: _ =>
    if Text.isNumeral a then return Text.toNat a
    else abortAs command (Text.ofString "Illegal number: " ++ a)

/-- Ends the shell. -/
def exit (arguments : List Text) : Job Nat := do
  finish (← statusArgument "exit" arguments)
  leave .shell

/-- Ends a function. -/
def returns (arguments : List Text) : Job Nat := do
  finish (← statusArgument "return" arguments)
  leave .function

/-- Ends repetitions, or a turn of one, as far as there are any. -/
def breaks (command : String) (how : Nat → Leave) (arguments : List Text) : Job Nat := do
  let depth := (← state).depth
  let count ←
    match arguments with
    | [] => Job.pure 1
    | a :: _ =>
      if Text.isNumeral a && 0 < Text.toNat a then Job.pure (Text.toNat a)
      else abortAs command (Text.ofString "Illegal number: " ++ a)
  if depth = 0 then return 0
  else
    finish 0
    leave (how (min count depth))

/-! ### The table -/

/-- Changes the directory, which has no effect but on what the shell says it is. -/
def cd (arguments : List Text) : Job Nat := do
  match arguments with
  | [] => return 0
  | path :: _ =>
    match ← ask (.inspect path.toBytes) with
    | some .directory =>
      assign (Text.ofString "PWD") path
      return 0
    | _ => complainAs "cd" (Text.ofString "can't cd to " ++ path)

/-- Writes the directory. -/
def pwd : Job Nat := do
  let path := ((← state).value? (Text.ofString "PWD")).getD (Text.ofString "/root")
  write "pwd" (path ++ ['\n']) 0

/-- The commands whose failure ends the shell, and whose assignments last. -/
def special : List String :=
  [":", ".", "break", "continue", "eval", "exec", "exit", "export", "readonly", "return", "set", "shift",
    "times", "trap", "unset"]

/-- What a command of the shell does with its arguments. -/
def find? (name : String) : Option (List Text → Job Nat) :=
  match name with
  | ":" => some fun _ => Job.pure 0
  | "true" => some fun _ => Job.pure 0
  | "false" => some fun _ => Job.pure 1
  | "echo" => some echo
  | "printf" => some printf
  | "test" => some (test "test")
  | "[" => some bracket
  | "read" => some read
  | "export" => some (mark "export" ({ · with isExported := true }))
  | "readonly" => some (mark "readonly" ({ · with isConstant := true }))
  | "local" => some keep
  | "unset" => some unset
  | "shift" => some shift
  | "set" => some set
  | "trap" => some trap
  | "kill" => some kill
  | "wait" => some fun targets => if targets.isEmpty then waitAll endless else wait targets 0
  | "exit" => some exit
  | "return" => some returns
  | "break" => some (breaks "break" .loops)
  | "continue" => some (breaks "continue" .turn)
  | "cd" => some cd
  | "pwd" => some fun _ => pwd
  | "umask" => some fun mask =>
    if mask.isEmpty then write "umask" (Text.ofString "0022\n") 0 else Job.pure 0
  | "hash" => some fun _ => Job.pure 0
  | "jobs" => some fun _ => Job.pure 0
  | "ulimit" => some fun _ => Job.pure 0
  | "times" => some fun _ => Job.pure 0
  | _ => none

end Traversal.Shell.Builtin
