import Traversal.Host.Step
import Traversal.Shell.Options
import Traversal.Shell.Run

/-!
# Tools

The programs that a host offers: the shell, and the small tools that scripts use.  A file can name one of
them in its first line, and then stands for that program with the file as its argument.
-/

namespace Traversal.Shell.Tool

open Host
open Job

/-! ### Tools for streams -/

/-- Says what is wrong, as tools do. -/
def complain (text : Text) : Job Unit := do
  let s ← state
  let _ ← put 2 (s.name ++ [':', ' '] ++ text ++ ['\n'])

/-- The text of an error number. -/
def errorText (e : Nat) : Text :=
  Text.ofString (osErrorText e)

/-- What is done with the parts of files, given what has been found so far. -/
structure Pass (σ : Type) where
  /-- The greatest length of the next part. -/
  limit : σ → Nat := fun _ => 65536
  /-- Takes a part; gives nothing if no further one is wanted. -/
  take : σ → Text → Job (Option σ)
  /-- Names a file that cannot be opened. -/
  nameMissing : Text → Text := fun path => path

/-- Passes over a stream, in at most so many parts; gives the error number if it cannot be read. -/
def Pass.overStream {σ : Type} (pass : Pass σ) (stream : Nat) : Nat → σ → Job (σ × Option Nat)
  | 0, a => return (a, none)
  | n + 1, a => do
    match ← ask (.read stream (pass.limit a)) with
    | .ok [] => return (a, none)
    | .ok bytes =>
      match ← pass.take a (Text.ofBytes bytes) with
      | some a => pass.overStream stream n a
      | none => return (a, none)
    | .error e => return (a, some e)

/-- Passes over several files; a dash is the standard input. -/
def Pass.overFiles {σ : Type} (pass : Pass σ) : List Text → σ → Job σ
  | [], a => return a
  | path :: rest, a => do
    if path = ['-'] then
      let (a, e?) ← pass.overStream 0 endless a
      report path e?
      pass.overFiles rest a
    else
      match ← ask (.openFile path.toBytes .read) with
      | .ok stream =>
        let (a, e?) ← pass.overStream stream endless a
        ask (.close stream)
        report path e?
        pass.overFiles rest a
      | .error e =>
        report (pass.nameMissing path) (some e)
        pass.overFiles rest a
where
  /-- Says that a file cannot be read. -/
  report (path : Text) (e? : Option Nat) : Job Unit :=
    match e? with
    | some e => do
      complain (path ++ [':', ' '] ++ errorText e)
      finish 1
    | none => Job.pure ()

/-- The files that a tool works on. -/
def filesOf (paths : List Text) : List Text :=
  if paths.isEmpty then [['-']] else paths

/-- Writes a text, or ends with a failure. -/
def emit (text : Text) : Job Bool := do
  if ← put 1 text then return true
  else
    finish 1
    return false

/-- Ends a tool that was called in the wrong way. -/
def refuse {α : Type} (message : Text) (status : Nat) : Job α := do
  let s ← state
  complain message
  let _ ← put 2 (Text.ofString "Try '" ++ s.name ++ Text.ofString " --help' for more information.\n")
  finish status
  leave .shell

/-- Refuses a fault in the options. -/
def mind (o : Operation) (status : Nat) : Job Unit :=
  match o.fault? with
  | some fault => refuse fault.message status
  | none => Job.pure ()

/-- Tells the arguments of a tool apart. -/
def readArguments (letters : Letters) (arguments : List Text) : Job Operation := do
  let o := letters.read arguments
  mind o 1
  return o

/-- Copies files to the standard output. -/
def cat (arguments : List Text) : Job Unit := do
  let o ← readArguments { plain := Text.ofString "AbeEnstTuv" } arguments
  let pass : Pass Unit := { take := fun _ text => do return if ← emit text then some () else none }
  pass.overFiles (filesOf o.operands) ()

/-- Copies the standard input to the standard output and to files. -/
def tee (arguments : List Text) : Job Unit := do
  let o ← readArguments { plain := ['a', 'i', 'p'] } arguments
  let mode : OpenMode := if o.has 'a' then .append else .replace
  let streams ← o.operands.filterMapM fun path => do
    match ← ask (.openFile path.toBytes mode) with
    | .ok stream => return some stream
    | .error e =>
      complain (path ++ [':', ' '] ++ errorText e)
      finish 1
      return none
  let take (_ : Unit) (text : Text) : Job (Option Unit) := do
    streams.forM fun stream => do
      let _ ← put stream text
    return if ← emit text then some () else none
  let pass : Pass Unit := { take }
  pass.overFiles [['-']] ()

/-- How many of what a unit stands for. -/
def unit? (text : Text) : Option Nat :=
  match String.ofList text with
  | "" => some 1
  | "b" => some 512
  | "k" | "K" | "KiB" => some 1024
  | "kB" | "KB" => some 1000
  | "M" | "MiB" => some (1024 * 1024)
  | "MB" => some (1000 * 1000)
  | "G" | "GiB" => some (1024 * 1024 * 1024)
  | "GB" => some (1000 * 1000 * 1000)
  | _ => none

/-- The number that digits with a unit stand for. -/
def count? (text : Text) : Option Nat :=
  let digits := text.takeWhile Char.isDigit
  if digits.isEmpty then none
  else (unit? (text.drop digits.length)).map (Text.toNat digits * ·)

/-- A share of the lines or bytes of a text. -/
structure Share where
  countsBytes : Bool := false
  count : Nat := 10
  /-- The sign before the count. -/
  sign? : Option Char := none
deriving DecidableEq, Repr

/-- The share that the first or the last part has to have; a dash with digits is a number of lines. -/
def readShare (others : Letters) (arguments : List Text) : Job (Share × List Text) := do
  let arguments :=
    match arguments with
    | ('-' :: digits) :: rest =>
      if Text.isNumeral digits then ['-', 'n'] :: digits :: rest else arguments
    | _ => arguments
  let o := { others with valued := 'n' :: 'c' :: others.valued }.read arguments
  let counts := o.options.filter fun (letter, _) => letter = 'n' || letter = 'c'
  let share ← counts.foldlM (fun _ (letter, value) => do
    let sign? := value.head?.filter fun c => c = '-' || c = '+'
    match count? (if sign?.isSome then value.tail else value) with
    | some count => return { countsBytes := letter = 'c', count, sign? }
    | none => do
      let name := if letter = 'c' then "bytes" else "lines"
      complain (Text.ofString ("invalid number of " ++ name ++ ": '") ++ value ++ ['\''])
      finish 1
      leave .shell) ({} : Share)
  mind o 1
  return (share, o.operands)

/-- The first so many lines of a text, and how many are still missing. -/
def takeLines : Nat → Text → Text × Nat
  | 0, _ => ([], 0)
  | n, [] => ([], n)
  | n + 1, '\n' :: rest =>
    let (text, missing) := takeLines n rest
    ('\n' :: text, missing)
  | n + 1, c :: rest =>
    let (text, missing) := takeLines (n + 1) rest
    (c :: text, missing)

/-- Names a file that cannot be opened by what was tried. -/
def nameOpening (path : Text) : Text :=
  Text.ofString "cannot open '" ++ path ++ Text.ofString "' for reading"

/-- All of some files; those that are missing are named in some way. -/
def contents (paths : List Text) (nameMissing : Text → Text) : Job Text :=
  let pass : Pass Text := { take := fun before text => return some (before ++ text), nameMissing }
  pass.overFiles (filesOf paths) []

/-- The lines of a text with their line breaks. -/
def linesOf (text : Text) : List Text :=
  let lines := (text.splitOn '\n').map (· ++ ['\n'])
  match lines.getLast? with
  | some last => if last = ['\n'] then lines.dropLast else lines.dropLast ++ [last.dropLast]
  | none => []

/-- Copies the first lines or bytes; with a sign, all but the last ones. -/
def head (arguments : List Text) : Job Unit := do
  let (share, paths) ← readShare { plain := ['q', 'v', 'z'] } arguments
  if share.sign? = some '-' then
    let text ← contents paths nameOpening
    let portion :=
      if share.countsBytes then text.take (text.length - share.count)
      else ((linesOf text).take ((linesOf text).length - share.count)).flatten
    let _ ← emit portion
  else if share.count = 0 then Job.pure ()
  else
    let take (left : Nat) (text : Text) : Job (Option Nat) := do
      let (portion, missing) :=
        if share.countsBytes then (text.take left, left - text.length) else takeLines left text
      if ← emit portion then return if missing = 0 then none else some missing
      else return none
    let pass : Pass Nat :=
      { take, limit := fun left => if share.countsBytes then left else 65536
        nameMissing := nameOpening }
    let _ ← pass.overFiles (filesOf paths) share.count

/-- Copies the last lines or bytes; with a plus, all from a place on. -/
def tail (arguments : List Text) : Job Unit := do
  let (share, paths) ← readShare { plain := ['f', 'F', 'q', 'r', 'v', 'z'], valued := ['s'] } arguments
  let text ← contents paths nameOpening
  let start (length : Nat) : Nat :=
    if share.sign? = some '+' then share.count - 1 else length - share.count
  let portion :=
    if share.countsBytes then text.drop (start text.length)
    else ((linesOf text).drop (start (linesOf text).length)).flatten
  let _ ← emit portion

/-- Counts lines, words and bytes. -/
def wc (arguments : List Text) : Job Unit := do
  let o ← readArguments { plain := ['c', 'l', 'w', 'm', 'L'] } arguments
  let has (c : Char) : Bool := o.options.isEmpty || o.has c
  let countsOf (text : Text) : List Nat :=
    let words := (text.splitBy fun a b => Arithmetic.isSpace a = Arithmetic.isSpace b).filter
      fun word => !(word.head?.any Arithmetic.isSpace)
    (if has 'l' then [(text.filter (· = '\n')).length] else [])
      ++ (if has 'w' then [words.length] else [])
      ++ (if has 'c' || o.has 'm' then [text.length] else [])
  let write (width : Nat) (counts : List Nat) (name : Text) : Job Unit := do
    let digits := counts.map fun n =>
      let digits := Text.ofNat n
      List.replicate (width - digits.length) ' ' ++ digits
    let _ ← emit ([' '].intercalate (if name.isEmpty then digits else digits ++ [name]) ++ ['\n'])
  if o.operands.isEmpty then
    write (if (countsOf []).length = 1 then 1 else 7) (countsOf (← contents [] id)) []
  else
    let files ← o.operands.filterMapM fun path => do
      let text ← contents [path] id
      let isThere := path = ['-'] || (← ask (.inspect path.toBytes)).isSome
      return if isThere then some (path, text) else none
    let total := files.foldl (fun total file => total.zipWith (· + ·) (countsOf file.2)) (countsOf [])
    let width :=
      if o.operands.length = 1 && total.length = 1 then 1
      else if o.operands.contains ['-'] then 7
      else (Text.ofNat (files.flatMap (·.2)).length).length
    files.forM fun (path, text) => write width (countsOf text) path
    if 1 < o.operands.length then write width total (Text.ofString "total")

/-- The characters of a set with its escapes and ranges. -/
def charactersOf : Nat → Text → Text
  | 0, _ => []
  | _, [] => []
  | n + 1, '\\' :: rest =>
    let (c, rest) := Format.unescape rest
    c :: charactersOf n rest
  | n + 1, a :: '-' :: b :: rest =>
    ((List.range (b.toNat + 1 - a.toNat)).map fun k => Char.ofNat (a.toNat + k))
      ++ charactersOf n rest
  | n + 1, c :: rest => c :: charactersOf n rest

/-- The characters of a set, which may be named by a class. -/
def setOf (text : Text) : Text :=
  let name := String.ofList ((text.drop 2).takeWhile (· ≠ ':'))
  if (Text.ofString "[:").isPrefixOf text then
    (Pattern.classRanges name).flatMap fun (a, b) =>
      (List.range (b.toNat + 1 - a.toNat)).map fun k => Char.ofNat (a.toNat + k)
  else charactersOf text.length text

/-- A text in which a character of a set does not follow itself. -/
def squeeze (set : Text) : Text → Text
  | a :: b :: rest =>
    if a = b && set.contains a then squeeze set (b :: rest) else a :: squeeze set (b :: rest)
  | text => text

/-- Replaces, deletes or squeezes characters. -/
def tr (arguments : List Text) : Job Unit := do
  let o ← readArguments { plain := ['c', 'C', 'd', 's', 't'], isStrict := true } arguments
  let has := o.has
  let sets := o.operands
  let most := if has 'd' && !has 's' then 1 else 2
  let least := if has 'd' = has 's' then 2 else 1
  if sets.isEmpty then refuse (Text.ofString "missing operand") 1
  if sets.length < least then
    let reason :=
      if has 'd' then "\nTwo strings must be given when both deleting and squeezing repeats."
      else "\nTwo strings must be given when translating."
    refuse (Text.ofString "missing operand after '" ++ sets.headD [] ++ Text.ofString ("'" ++ reason)) 1
  match sets.drop most with
  | extra :: _ =>
    let reason :=
      if most = 1 && sets.length = 2 then
        "\nOnly one string may be given when deleting without squeezing repeats."
      else ""
    refuse (Text.ofString "extra operand '" ++ extra ++ Text.ofString ("'" ++ reason)) 1
  | [] => Job.pure ()
  let first := setOf (sets.headD [])
  let second := setOf (sets.tail.headD [])
  let isIn (c : Char) : Bool := first.contains c != (has 'c' || has 'C')
  let replace (c : Char) : Char :=
    if !isIn c then c
    else
      match second.getLast? with
      | none => c
      | some last =>
        if has 'c' || has 'C' then last else second.getD (first.idxOf c) last
  let take (_ : Unit) (text : Text) : Job (Option Unit) := do
    let text := if has 'd' then text.filter fun c => !isIn c else text.map replace
    let text := if has 's' then squeeze (if second.isEmpty then first else second) text else text
    return if ← emit text then some () else none
  let pass : Pass Unit := { take }
  pass.overFiles [['-']] ()

/-! ### Tools that make output -/

/-- Writes numbers from one to another, at most so many, with a separator between them. -/
def countTo (last step : Int) (separator : Text) : Nat → Int → Job Unit
  | 0, _ => Job.pure ()
  | n + 1, k => do
    let isLast := if 0 < step then last < k + step else k + step < last
    if ← emit (Text.ofInt k ++ if isLast then ['\n'] else separator) then
      if !isLast then countTo last step separator n (k + step)

/-- Writes numbers in order. -/
def seq (arguments : List Text) : Job Unit := do
  let letters : Letters := { plain := ['w'], valued := ['f', 's'], isStrict := true }
  let isNumber := (arguments.head?.bind Text.toInt?).isSome
  let o ←
    if isNumber then Job.pure { operands := arguments } else readArguments letters arguments
  let numbers ← o.operands.mapM fun text =>
    match Text.toInt? text with
    | some k => Job.pure k
    | none => refuse (Text.ofString "invalid floating point argument: '" ++ text ++ ['\'']) 1
  let write (first step last : Int) : Job Unit :=
    if step = 0 then refuse (Text.ofString "invalid Zero increment value: '0'") 1
    else if if 0 < step then last < first else first < last then Job.pure ()
    else countTo last step ((o.value? 's').getD ['\n']) endless first
  match numbers with
  | [] => refuse (Text.ofString "missing operand") 1
  | [last] => write 1 1 last
  | [first, last] => write first 1 last
  | [first, step, last] => write first step last
  | _ =>
    refuse (Text.ofString "extra operand '" ++ o.operands.getD 3 [] ++ ['\'']) 1

/-- Writes a line again and again. -/
def repeatLine (line : Text) : Nat → Job Unit
  | 0 => Job.pure ()
  | n + 1 => do
    if ← emit line then repeatLine line n

/-- Writes a line again and again. -/
def yes (arguments : List Text) : Job Unit := do
  let o ← readArguments {} arguments
  let line := if o.operands.isEmpty then ['y'] else [' '].intercalate o.operands
  let lines := (List.replicate (1 + 4096 / (line.length + 1)) (line ++ ['\n'])).flatten
  repeatLine lines endless

/-- Writes its arguments, with escapes only if that is asked for. -/
def echo (arguments : List Text) : Job Unit := do
  let letters : Text := ['n', 'e', 'E']
  let isOption (a : Text) : Bool := a.head? = some '-' && 1 < a.length && a.tail.all letters.contains
  let options := arguments.takeWhile isOption
  let rest := arguments.drop options.length
  let chosen := options.flatten
  let escapes := (chosen.filter fun c => c = 'e' || c = 'E').getLast? = some 'e'
  let text :=
    if escapes then Format.echo (['-', 'n'] :: rest) else [' '].intercalate rest
  let _ ← emit (if chosen.contains 'n' then text else text ++ ['\n'])

/-! ### Time and environment -/

/-- A number of seconds in microseconds. -/
def microseconds? (text : Text) : Option Nat :=
  let whole := text.takeWhile Char.isDigit
  let rest := text.drop whole.length
  let (fraction, rest) :=
    match rest with
    | '.' :: rest => (rest.takeWhile Char.isDigit, rest.dropWhile Char.isDigit)
    | rest => ([], rest)
  let unit? : Option Nat :=
    match rest with
    | [] => some 1
    | ['s'] => some 1
    | ['m'] => some 60
    | ['h'] => some 3600
    | ['d'] => some 86400
    | _ => none
  if whole.isEmpty && fraction.isEmpty then
    if text = Text.ofString "infinity" then some (endless * 1000) else none
  else
    unit?.map fun unit =>
      unit * (Text.toNat whole * 1000000 + Text.toNat ((fraction ++ List.replicate 6 '0').take 6))

/-- Waits. -/
def sleep (arguments : List Text) : Job Unit := do
  let o ← readArguments {} arguments
  if o.operands.isEmpty then refuse (Text.ofString "missing operand") 1
  let wrong := o.operands.filter fun text => (microseconds? text).isNone
  let complaints := wrong.map fun text => Text.ofString "invalid time interval '" ++ text ++ ['\'']
  match complaints.getLast? with
  | some last => do
    complaints.dropLast.forM complain
    refuse last 1
  | none => ask (.sleep ((o.operands.filterMap microseconds?).foldl (· + ·) 0))

/-- Runs another program with other variables, or writes the variables. -/
def env (arguments : List Text) : Job Unit := do
  let letters : Letters :=
    { plain := ['i', '0', 'v'], valued := ['u', 'C', 'S'], isStrict := true }
  let o := letters.read arguments
  mind o 125
  let isBare := o.operands.head? = some ['-']
  if o.has 'i' || isBare then change fun s => { s with bindings := [] }
  o.options.forM fun (letter, name) =>
    if letter = 'u' then change (·.withoutVariable name) else Job.pure ()
  let arguments := if isBare then o.operands.tail else o.operands
  let settings := arguments.takeWhile (·.contains '=')
  settings.forM fun setting => do
    let (name, value?) := Builtin.splitAssignment setting
    change (·.withVariable name { value := value?, isExported := true })
  match arguments.drop settings.length with
  | [] =>
    let lines := (environment (← state)).map fun (name, value) =>
      Text.ofBytes name ++ ['='] ++ Text.ofBytes value ++ ['\n']
    let _ ← emit lines.flatten
  | name :: arguments =>
    let e ← Run.become name arguments
    complain (['\''] ++ name ++ ['\'', ':', ' '] ++ errorText e)
    finish (if e = 2 then 127 else 126)

/-- Runs a command of the shell as a program of its own. -/
def alone (command : List Text → Job Nat) (arguments : List Text) : Job Unit := do
  finish (← command arguments)

/-! ### The shell -/

/-- Refuses an option of the shell. -/
def refuseOption {α : Type} (text : Text) : Job α := do
  complain (Text.ofString "0: Illegal option -" ++ text)
  finish 2
  leave .shell

/-- Turns on the options that letters stand for.  One letter takes the next argument as a name; gives the
arguments behind. -/
def switchOn : Text → List Text → Job (List Text)
  | [], rest => return rest
  | 'c' :: letters, rest => switchOn letters rest
  | 'l' :: letters, rest => switchOn letters rest
  | 'o' :: letters, name :: rest => do
    if ← Builtin.turnName true name then switchOn letters rest
    else refuseOption (['o', ' '] ++ name)
  | 'o' :: letters, [] => do
    let _ ← put 1 (Builtin.switchList fun _ => true)
    switchOn letters []
  | c :: letters, rest => do
    if ← Builtin.turnLetter true c then switchOn letters rest else refuseOption [c]

/-- Reads the options of the shell, at most so many; gives whether a text is to be run, and the arguments
behind. -/
def readOptions : Nat → Bool → List Text → Job (Bool × List Text)
  | 0, runsText, rest => return (runsText, rest)
  | n + 1, runsText, a :: rest => do
    match a with
    | ['-', '-'] => return (runsText, rest)
    | ['-'] => return (runsText, rest)
    | '-' :: letters => readOptions n (runsText || letters.contains 'c') (← switchOn letters rest)
    | _ => return (runsText, a :: rest)
  | _, runsText, [] => return (runsText, [])

/-- Runs the shell on a text, a file or its standard input. -/
def shell (arguments : List Text) : Job Unit := do
  let (runsText, rest) ← readOptions arguments.length false arguments
  if runsText then
    match rest with
    | [] =>
      complain (Text.ofString "0: -c requires an argument")
      finish 2
    | text :: rest =>
      match rest with
      | [] => Job.pure ()
      | name :: arguments => change ({ · with name, arguments })
      Run.script text true
  else
    match rest with
    | [] => Run.script (Text.ofBytes (← readAll 0)) false
    | path :: arguments =>
      match ← ask (.openFile path.toBytes .read) with
      | .error e =>
        complain (Text.ofString "0: " ++ Run.openComplaint .read path e)
        finish 2
      | .ok stream =>
        let bytes ← readAll stream
        ask (.close stream)
        change ({ · with name := path, arguments })
        Run.script (Text.ofBytes bytes) false

/-! ### The table -/

/-- What a tool does with its arguments. -/
def find? (name : String) : Option (List Text → Job Unit) :=
  match name with
  | "sh" => some shell
  | "dash" => some shell
  | "bash" => some shell
  | "cat" => some cat
  | "tee" => some tee
  | "head" => some head
  | "tail" => some tail
  | "wc" => some wc
  | "tr" => some tr
  | "seq" => some seq
  | "yes" => some yes
  | "sleep" => some sleep
  | "env" => some env
  | "true" => some fun _ => finish 0
  | "false" => some fun _ => finish 1
  | "echo" => some echo
  | "printf" => some (alone Builtin.printf)
  | "test" => some (alone (Builtin.test "test"))
  | "[" => some (alone Builtin.bracket)
  | "kill" => some (alone Builtin.kill)
  | _ => none

/-- The names of the tools. -/
def names : List String :=
  ["sh", "dash", "bash", "cat", "tee", "head", "tail", "wc", "tr", "seq", "yes", "sleep", "env", "true",
    "false", "echo", "printf", "test", "[", "kill"]

/-- The directories with tools. -/
def directories : List String :=
  ["/usr/bin/", "/bin/"]

/-- The tool at a path. -/
def atPath? (path : Bytes) : Option (List Text → Job Unit) :=
  let path := Text.ofBytes (Files.plain path)
  directories.findSome? fun directory =>
    if (Text.ofString directory).isPrefixOf path then
      find? (String.ofList (path.drop directory.length))
    else none

/-- The variables of a shell when it begins. -/
def initialVariables (environment : List (Bytes × Bytes)) : List (Text × Variable) :=
  let given := environment.map fun (name, value) =>
    (Text.ofBytes name, ({ value := some (Text.ofBytes value), isExported := true } : Variable))
  let add (name value : String) (bindings : List (Text × Variable)) : List (Text × Variable) :=
    if bindings.any (·.1 = Text.ofString name) then bindings
    else (Text.ofString name, { value := some (Text.ofString value) }) :: bindings
  let given := given.filter (·.1 ≠ Text.ofString "IFS")
  add "IFS" " \t\n" (add "PS4" "+ " (add "OPTIND" "1" (add "PPID" "1"
    (add "PATH" "/usr/local/sbin:/usr/local/bin:/usr/sbin:/usr/bin:/sbin:/bin" given))))

/-- The program of a tool. -/
def program (tool : List Text → Job Unit) (invocation : Invocation) : Program :=
  tool (invocation.arguments.map Text.ofBytes)
    { name := Text.ofBytes invocation.name, bindings := initialVariables invocation.environment }
    fun _ s => .exit s.status.toUInt8

/-- The program and its argument that the first line of a file names. -/
def interpreter? (content : Bytes) : Option (Bytes × List Bytes) :=
  match Text.ofBytes (content.takeWhile (· ≠ Bytes.newline)) with
  | '#' :: '!' :: line =>
    let isBlank (c : Char) : Bool := c = ' ' || c = '\t'
    let line := ((line.dropWhile isBlank).reverse.dropWhile isBlank).reverse
    let path := line.takeWhile fun c => !isBlank c
    let argument := (line.drop path.length).dropWhile isBlank
    if path.isEmpty then none
    else some (Text.toBytes path, if argument.isEmpty then [] else [Text.toBytes argument])
  | _ => none

/-- Finds the program of a file; first lines may lead on at most so many times. -/
def launchUpTo : Nat → Host → Invocation → Except Nat Program
  | 0, _, _ => .error 40
  | n + 1, h, invocation =>
    match h.files.find invocation.path with
    | .error e => .error e
    | .ok .directory => .error 13
    | .ok (.regular content mode) =>
      if !allowsRunning mode then .error 13
      else
        match atPath? invocation.path with
        | some tool => .ok (program tool invocation)
        | none =>
          match interpreter? content with
          | some (path, arguments) =>
            launchUpTo n h { invocation with
              path
              name := path
              arguments := arguments ++ invocation.path :: invocation.arguments }
          | none => .error 8

/-- Finds the program of a file. -/
def launch : Launcher :=
  launchUpTo 5

/-- The files of a host with all tools. -/
def initialFiles : Files :=
  let directory (path : String) : Bytes × File := (Bytes.ofText path, .directory)
  let text (path content : String) : Bytes × File :=
    (Bytes.ofText path, .regular (Bytes.ofText content) plainMode)
  let tools := directories.flatMap fun path =>
    names.map fun name => (Bytes.ofText (path ++ name), File.regular [] 0o755)
  { entries :=
      ["/bin", "/usr", "/usr/bin", "/usr/local", "/usr/local/bin", "/usr/local/sbin", "/usr/sbin",
        "/sbin", "/etc", "/tmp", "/root", "/home", "/var", "/dev", "/proc"].map directory
        ++ [text "/etc/passwd" "root:x:0:0:root:/root:/bin/bash\n", text "/etc/group" "root:x:0:\n",
          text "/etc/hosts" "127.0.0.1\tlocalhost\n", text "/etc/hostname" "localhost\n"]
        ++ ["/dev/null", "/dev/zero", "/dev/tty"].map (text · "")
        ++ tools }

/-- A host with all tools and nothing running. -/
def host : Host :=
  { files := initialFiles }

/-- The path of a program that is named as a caller names it: a name without a separator is looked for in
the usual directories, unless it is too long for a name. -/
def locate (h : Host) (name : Bytes) : Except Nat Bytes :=
  if name.contains Files.slash then .ok name
  else if Files.nameLimit < name.length then .error 36
  else
    let paths := ["/usr/local/sbin/", "/usr/local/bin/", "/usr/sbin/", "/usr/bin/", "/sbin/", "/bin/"].map
      fun directory => Bytes.ofText directory ++ name
    match paths.find? fun path => (h.files.find path).isOk && !name.isEmpty with
    | some path => .ok path
    | none => .error 2

end Traversal.Shell.Tool
