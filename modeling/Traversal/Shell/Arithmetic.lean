import Traversal.Shell.Command

/-!
# Arithmetic

Whole numbers of 64 bits with the operators of the shell language.  A name stands for the number that its
variable holds, or for zero if it holds nothing; assignments change variables.
-/

namespace Traversal.Shell.Arithmetic

/-- Why an expression has no value. -/
inductive Fault
  | divisionByZero
  | illegalNumber (text : Text)
  | expectedPrimary (rest : Text)
  | expectedEnd (rest : Text)
  | expectedBracket (rest : Text)
  | expectedColon (rest : Text)
deriving DecidableEq, Repr

/-- The wording of a fault of an expression. -/
def Fault.message (whole : Text) : Fault → Text
  | divisionByZero => note "division by zero"
  | illegalNumber text => Text.ofString "Illegal number: " ++ text
  | expectedPrimary _ => note "expecting primary"
  | expectedEnd _ => note "expecting EOF"
  | expectedBracket _ => note "expecting ')'"
  | expectedColon _ => note "expecting ':'"
where
  /-- A note on the whole expression. -/
  note (reason : String) : Text :=
    Text.ofString ("arithmetic expression: " ++ reason ++ ": \"") ++ whole ++ ['"']

/-- The variables while an expression is evaluated. -/
abbrev Evaluation := StateT (List (Text × Text)) (Except Fault)

/-- A number brought into the range of 64 bits. -/
def wrap (n : Int) : Int :=
  Int.bmod n (Nat.pow 2 64)

/-- A truth value as a number. -/
def ofBool (b : Bool) : Int :=
  if b then 1 else 0

/-- Whether a character is white space. -/
def isSpace (c : Char) : Bool :=
  c = ' ' || c = '\t' || c = '\n'

/-- A text without white space at its front. -/
def skipSpace (text : Text) : Text :=
  text.dropWhile isSpace

/-- The value of a digit. -/
def digit (c : Char) : Nat :=
  if c.isDigit then c.toNat - 48 else if c.isLower then c.toNat - 87 else c.toNat - 55

/-- The greatest number. -/
def greatest : Int :=
  Nat.pow 2 63 - 1

/-- The number that digits of a base stand for. -/
def ofDigits (base : Nat) (digits : Text) : Int :=
  (digits.foldl (fun n c => base * n + digit c) 0 : Nat)

/-- The number at the front of a text, and the rest. -/
def number (text : Text) : Int × Text :=
  match text with
  | '0' :: x :: rest =>
    if x = 'x' || x = 'X' then
      let digits := rest.takeWhile fun c =>
        c.isDigit || ('a' ≤ c && c ≤ 'f') || ('A' ≤ c && c ≤ 'F')
      (ofDigits 16 digits, rest.drop digits.length)
    else
      let digits := (x :: rest).takeWhile fun c => '0' ≤ c && c ≤ '7'
      (ofDigits 8 digits, (x :: rest).drop digits.length)
  | text =>
    let digits := text.takeWhile Char.isDigit
    (ofDigits 10 digits, text.drop digits.length)

/-- The number that the value of a variable stands for. -/
def ofValue (value : Text) : Except Fault Int :=
  let trimmed := (skipSpace value).reverse.dropWhile isSpace |>.reverse
  let (isNegative, digits) :=
    match trimmed with
    | '-' :: rest => (true, rest)
    | '+' :: rest => (false, rest)
    | rest => (false, rest)
  if trimmed.isEmpty then .ok 0
  else
    match digits with
    | [] => .error (.illegalNumber value)
    | c :: _ =>
      let (n, rest) := number digits
      let n := if isNegative then -n else n
      if c.isDigit && rest.isEmpty && wrap n = n then .ok n
      else .error (.illegalNumber value)

/-- The number that a variable holds. -/
def valueOf (name : Text) : Evaluation Int := do
  match (← get).lookup name with
  | some value =>
    match ofValue value with
    | .ok n => return n
    | .error fault => throw fault
  | none => return 0

/-- The operators with two sides, longest first, and how tightly they bind. -/
def operators : List (String × Nat) :=
  [("<<", 8), (">>", 8), ("<=", 7), (">=", 7), ("==", 6), ("!=", 6), ("&&", 2), ("||", 1), ("*", 10),
    ("/", 10), ("%", 10), ("+", 9), ("-", 9), ("<", 7), (">", 7), ("&", 5), ("^", 4), ("|", 3)]

/-- The operators that also assign. -/
def assigning : List String :=
  ["<<=", ">>=", "*=", "/=", "%=", "+=", "-=", "&=", "^=", "|=", "="]

/-- The operator at the front of a text, how tightly it binds, and the rest. -/
def operator? (text : Text) : Option (String × Nat × Text) :=
  let startsWith (s : String) : Bool := s.toList.isPrefixOf text
  if assigning.any fun s => s ≠ "=" && startsWith s then none
  else
    (operators.find? fun entry => startsWith entry.1).map fun (s, level) =>
      (s, level, text.drop s.length)

/-- Applies an operator. -/
def apply (operator : String) (a b : Int) : Except Fault Int :=
  let words (f : Int64 → Int64 → Int64) : Int := (f (Int64.ofInt a) (Int64.ofInt b)).toInt
  match operator with
  | "*" => .ok (wrap (a * b))
  | "/" => if b = 0 then .error .divisionByZero else .ok (wrap (Int.tdiv a b))
  | "%" => if b = 0 then .error .divisionByZero else .ok (wrap (Int.tmod a b))
  | "+" => .ok (wrap (a + b))
  | "-" => .ok (wrap (a - b))
  | "<<" => .ok (words fun a b => a <<< b)
  | ">>" => .ok (words fun a b => a >>> b)
  | "<" => .ok (ofBool (a < b))
  | ">" => .ok (ofBool (a > b))
  | "<=" => .ok (ofBool (a ≤ b))
  | ">=" => .ok (ofBool (a ≥ b))
  | "==" => .ok (ofBool (a = b))
  | "!=" => .ok (ofBool (a ≠ b))
  | "&" => .ok (words fun a b => a &&& b)
  | "^" => .ok (words fun a b => a ^^^ b)
  | "|" => .ok (words fun a b => a ||| b)
  | _ => .ok b

mutual

/-- Evaluates an assignment or a choice; without being live it changes nothing and divides by zero. -/
def assignment : Nat → Bool → Text → Evaluation (Int × Text)
  | 0, _, text => throw (.expectedPrimary text)
  | n + 1, isLive, text => do
    let text := skipSpace text
    let name := text.takeWhile isNamePart
    let behind := skipSpace (text.drop name.length)
    match if isName name then assigning.find? fun s => s.toList.isPrefixOf behind else none with
    | some s =>
      let rest := behind.drop s.length
      if s = "=" && rest.head? = some '=' then choice n isLive text
      else
        let (b, rest) ← assignment n isLive rest
        if isLive then
          let value ← if s = "=" then pure b else do
            let a ← valueOf name
            match apply (String.ofList s.toList.dropLast) a b with
            | .ok value => pure value
            | .error fault => throw fault
          modify fun values => (name, Text.ofInt value) :: values
          return (value, rest)
        else return (b, rest)
    | none => choice n isLive text

/-- Evaluates a choice between two values, or less. -/
def choice : Nat → Bool → Text → Evaluation (Int × Text)
  | 0, _, text => throw (.expectedPrimary text)
  | n + 1, isLive, text => do
    let (a, rest) ← unary n isLive text
    let (test, rest) ← binary n isLive 1 a rest
    match skipSpace rest with
    | '?' :: rest =>
      let (yes, rest) ← assignment n (isLive && test ≠ 0) rest
      match skipSpace rest with
      | ':' :: rest =>
        let (no, rest) ← choice n (isLive && test = 0) rest
        return (if test ≠ 0 then yes else no, rest)
      | rest => throw (.expectedColon rest)
    | rest => return (test, rest)

/-- Goes on from a left side with operators that bind at least so tightly. -/
def binary : Nat → Bool → Nat → Int → Text → Evaluation (Int × Text)
  | 0, _, _, _, text => throw (.expectedPrimary text)
  | n + 1, isLive, least, a, text => do
    let text := skipSpace text
    match operator? text with
    | none => return (a, text)
    | some (s, level, rest) =>
      if level < least then return (a, text)
      else
        let decided := (s = "&&" && a = 0) || (s = "||" && a ≠ 0)
        let isLive' := isLive && !decided
        let (b, rest) ← unary n isLive' rest
        let (b, rest) ← binary n isLive' (level + 1) b rest
        let value ←
          if s = "&&" then pure (ofBool (a ≠ 0 && b ≠ 0))
          else if s = "||" then pure (ofBool (a ≠ 0 || b ≠ 0))
          else if isLive then
            match apply s a b with
            | .ok value => pure value
            | .error fault => throw fault
          else pure 0
        binary n isLive least value rest

/-- Evaluates a number, a name, a bracket, or one of these behind a sign. -/
def unary : Nat → Bool → Text → Evaluation (Int × Text)
  | 0, _, text => throw (.expectedPrimary text)
  | n + 1, isLive, text => do
    match skipSpace text with
    | '-' :: rest =>
      let (a, rest) ← unary n isLive rest
      return (wrap (-a), rest)
    | '+' :: rest => unary n isLive rest
    | '!' :: rest =>
      let (a, rest) ← unary n isLive rest
      return (ofBool (a = 0), rest)
    | '~' :: rest =>
      let (a, rest) ← unary n isLive rest
      return (-a - 1, rest)
    | '(' :: rest =>
      let (a, rest) ← assignment n isLive rest
      match skipSpace rest with
      | ')' :: rest => return (a, rest)
      | rest => throw (.expectedBracket rest)
    | c :: rest =>
      if c.isDigit then
        let (a, rest) := number (c :: rest)
        return (min a greatest, rest)
      else if isNameStart c then
        let name := (c :: rest).takeWhile isNamePart
        return (← if isLive then valueOf name else pure 0, (c :: rest).drop name.length)
      else throw (.expectedPrimary (c :: rest))
    | [] => throw (.expectedPrimary [])

end

/-- Evaluates an expression, given the variables; the latest assignments come first. -/
def evaluate (text : Text) (values : List (Text × Text)) :
    Except Fault (Int × List (Text × Text)) := do
  let ((value, rest), values) ← (assignment (4 * text.length + 16) true text).run values
  match skipSpace rest with
  | [] => return (value, values)
  | rest => throw (.expectedEnd rest)

end Traversal.Shell.Arithmetic
