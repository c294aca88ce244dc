import Traversal.Shell.Job

/-!
# Conditions

What the command `test` decides: properties of texts, numbers and files, and their combinations.
-/

namespace Traversal.Shell.Condition

open Host

/-- Why a condition cannot be decided. -/
inductive Fault
  | illegalNumber (text : Text)
  | unexpected (text : Text)
  | missingArgument
  /-- The second argument of an operator is missing. -/
  | missingSecond (operator : Text)
  | missingParenthesis
  | missingBracket
deriving DecidableEq, Repr

/-- The wording of a fault of a condition. -/
def Fault.message : Fault → Text
  | illegalNumber text => Text.ofString "Illegal number: " ++ text
  | unexpected text => text ++ Text.ofString ": unexpected operator"
  | missingArgument => Text.ofString "argument expected"
  | missingSecond operator => operator ++ Text.ofString ": argument expected"
  | missingParenthesis => Text.ofString "closing paren expected"
  | missingBracket => Text.ofString "missing ]"

/-- A decision about a condition. -/
abbrev Decision := Except Fault Bool

/-- The number that an argument stands for. -/
def number (text : Text) : Except Fault Int :=
  let trimmed := (text.dropWhile (· = ' ')).reverse.dropWhile (· = ' ') |>.reverse
  match Text.toInt? trimmed with
  | some n =>
    if Int.bmod n (Nat.pow 2 64) = n then .ok n else .error (.illegalNumber text)
  | none => .error (.illegalNumber text)

/-- Compares two numbers. -/
def compare (a b : Text) (holds : Int → Int → Bool) : Decision := do
  let a ← number a
  let b ← number b
  return holds a b

/-- Decides on two arguments, if there is such an operator. -/
def binary? (operator : String) (a b : Text) : Option Decision :=
  match operator with
  | "=" => some (.ok (a = b))
  | "==" => some (.ok (a = b))
  | "!=" => some (.ok (a ≠ b))
  | "<" => some (.ok (a < b))
  | ">" => some (.ok (b < a))
  | "-eq" => some (compare a b fun a b => a = b)
  | "-ne" => some (compare a b fun a b => a ≠ b)
  | "-lt" => some (compare a b fun a b => a < b)
  | "-le" => some (compare a b fun a b => a ≤ b)
  | "-gt" => some (compare a b fun a b => b < a)
  | "-ge" => some (compare a b fun a b => b ≤ a)
  | _ => none

/-- Decides on a property of a file. -/
def ofFile (operator : String) (kind? : Option FileKind) : Option Bool :=
  match operator with
  | "-e" => some kind?.isSome
  | "-f" => some (kind? matches some (.regular _ _))
  | "-d" => some (kind? = some .directory)
  | "-c" => some (kind? = some .device)
  | "-r" => some kind?.isSome
  | "-w" => some kind?.isSome
  | "-x" =>
    match kind? with
    | some (.regular _ isExecutable) => some isExecutable
    | some .directory => some true
    | _ => some false
  | "-s" =>
    match kind? with
    | some (.regular size _) => some (0 < size)
    | _ => some kind?.isSome
  | "-p" => some false
  | "-L" => some false
  | "-h" => some false
  | "-b" => some false
  | "-S" => some false
  | _ => none

/-- Decides on one argument, if there is such an operator. -/
def unary? (operator : Text) (a : Text) : Job (Option Decision) := do
  match String.ofList operator with
  | "-n" => return some (.ok (!a.isEmpty))
  | "-z" => return some (.ok a.isEmpty)
  | "-t" => return some ((number a).map fun _ => false)
  | operator =>
    if (ofFile operator none).isNone then return none
    else
      let kind? ← Job.ask (.inspect a.toBytes)
      return (ofFile operator kind?).map .ok

/-- The negation of a decision. -/
def negate (d : Decision) : Decision :=
  d.map (!·)

mutual

/-- Decides on alternatives and gives the arguments that are left. -/
def alternatives : Nat → List Text → Job (Decision × List Text)
  | 0, rest => return (.error .missingArgument, rest)
  | n + 1, arguments => do
    let (a, rest) ← conjunction n arguments
    match a, rest with
    | .ok a, ['-', 'o'] :: rest =>
      let (b, rest) ← alternatives n rest
      return (b.map (a || ·), rest)
    | a, rest => return (a, rest)

/-- Decides on conditions that all have to be met. -/
def conjunction : Nat → List Text → Job (Decision × List Text)
  | 0, rest => return (.error .missingArgument, rest)
  | n + 1, arguments => do
    let (a, rest) ← primary n arguments
    match a, rest with
    | .ok a, ['-', 'a'] :: rest =>
      let (b, rest) ← conjunction n rest
      return (b.map (a && ·), rest)
    | a, rest => return (a, rest)

/-- Decides on a condition that is not made of others, or is negated or in brackets. -/
def primary : Nat → List Text → Job (Decision × List Text)
  | 0, rest => return (.error .missingArgument, rest)
  | n + 1, arguments => do
    match arguments with
    | [] => return (.error .missingArgument, [])
    | a :: rest =>
      match rest with
      | operator :: b :: behind =>
        match binary? (String.ofList operator) a b with
        | some d => return (d, behind)
        | none => operand n a rest
      | [operator] =>
        let isBinary := (binary? (String.ofList operator) [] []).isSome
        if isBinary && a ≠ ['!'] && (← unary? a operator).isNone then
          return (.error (.missingSecond operator), [])
        else operand n a rest
      | [] => operand n a rest

/-- Decides on a condition that does not compare its first argument. -/
def operand : Nat → Text → List Text → Job (Decision × List Text)
  | 0, _, rest => return (.error .missingArgument, rest)
  | n + 1, a, rest => do
    if a = ['!'] && !rest.isEmpty then
      let (d, rest) ← primary n rest
      return (negate d, rest)
    else if a = ['('] && !rest.isEmpty then
      let (d, rest) ← alternatives n rest
      match rest with
      | [')'] :: rest => return (d, rest)
      | _ => return (.error .missingParenthesis, rest)
    else
      match rest with
      | b :: behind =>
        match ← unary? a b with
        | some d => return (d, behind)
        | none => return (.ok (!a.isEmpty), rest)
      | [] => return (.ok (!a.isEmpty), [])

end

/-- Decides on a condition. -/
def decide (arguments : List Text) : Job Decision := do
  match arguments with
  | [] => return .ok false
  | [a] => return .ok (!a.isEmpty)
  | _ =>
    let (d, rest) ← alternatives (4 * arguments.length + 8) arguments
    match rest with
    | [] => return d
    | _ =>
      let last := arguments.getD (arguments.length - rest.length - 1) []
      return d.bind fun _ => .error (.unexpected last)

end Traversal.Shell.Condition
