import Traversal.Toml.Text
import Traversal.Toml.Value

/-!
# Numbers

Integers are written in decimal, or in hexadecimal, octal or binary behind a marker, and must fit into
64 bits.  Floating-point numbers have a fraction, an exponent or both, or are one of the words for
infinity and for no number.  An underscore may stand between two digits.
-/

namespace Traversal.Toml

open Reader

/-- Whether a character is an octal digit. -/
def isOctalDigit (c : Char) : Bool :=
  '0' ≤ c && c ≤ '7'

/-- Whether a character is a binary digit. -/
def isBinaryDigit (c : Char) : Bool :=
  c = '0' || c = '1'

/-- Whether a character is a decimal digit other than zero. -/
def isLeadingDigit (c : Char) : Bool :=
  '1' ≤ c && c ≤ '9'

/-- Whether a character is a sign. -/
def isSign (c : Char) : Bool :=
  c = '+' || c = '-'

/-- Reads a digit, or an underscore with a digit behind it. -/
def moreDigit (isDigit : Char → Bool) : Reader Char :=
  orElse (satisfy isDigit) do
    let _ ← char '_'
    expecting (must (satisfy isDigit)) ["digit"]

/-- Reads digits, the first of which may be zero. -/
def digits (isDigit : Char → Bool) : Reader (List Char) := do
  let d ← satisfy isDigit
  let more ← many (moreDigit isDigit)
  return d :: more

/-- A decimal integer as it is written: whether it has a minus sign, and its digits. -/
def decimal : Reader (Bool × List Char) :=
  (named · "integer") do
    let sign ← optional (satisfy isSign)
    let ds ← orElse
      (do
        let d ← satisfy isLeadingDigit
        let more ← many (moreDigit Char.isDigit)
        return d :: more)
      (do return [← satisfy Char.isDigit])
    return (sign = some '-', ds)

/-- The integer of a sign and a magnitude, if 64 bits hold it. -/
def fit (isNegative : Bool) (n : Nat) : Except Objection Int :=
  if isNegative then
    if n ≤ Nat.pow 2 63 then .ok (-(n : Int)) else .error .tooSmall
  else if n < Nat.pow 2 63 then .ok n
  else .error .tooLarge

/-- Reads an integer behind a marker. -/
def marked (marker : List Char) (isDigit : Char → Bool) (base : Nat) (construct : String) :
    Reader Int :=
  must <| checked
    ((named · construct) do
      literal marker
      must (digits isDigit))
    fun ds => fit false (number base ds)

/-- Reads an integer. -/
def integer : Reader Int := fun s =>
  match s with
  | '0' :: 'x' :: _ => marked ['0', 'x'] isHexDigit 16 "hexadecimal integer" s
  | '0' :: 'o' :: _ => marked ['0', 'o'] isOctalDigit 8 "octal integer" s
  | '0' :: 'b' :: _ => marked ['0', 'b'] isBinaryDigit 2 "binary integer" s
  | _ =>
    match decimal s with
    | .error refusal => .error refusal
    | .ok ((isNegative, ds), s') =>
      match fit isNegative (number 10 ds) with
      | .ok n => .ok (n, s')
      | .error objection => .error { place := s, isFinal := true, objection := some objection }

/-- A floating-point number as it is written. -/
structure Written where
  isNegative : Bool
  whole : List Char
  fraction : List Char := []
  exponentIsNegative : Bool := false
  exponent : List Char := []

/-- Reads a fraction. -/
def fraction : Reader (List Char) := do
  let _ ← char '.'
  expecting (must (digits Char.isDigit)) ["digit"]

/-- Reads an exponent. -/
def exponent : Reader (Bool × List Char) := do
  let _ ← satisfy fun c => c = 'e' || c = 'E'
  let sign ← optional (satisfy isSign)
  let ds ← must (digits Char.isDigit)
  return (sign = some '-', ds)

/-- Reads a floating-point number in digits. -/
def realDigits : Reader Written := do
  let (isNegative, whole) ← decimal
  orElse
    (do
      let (exponentIsNegative, exponent) ← exponent
      return { isNegative, whole, exponentIsNegative, exponent })
    (do
      let fraction ← fraction
      match ← optional exponent with
      | some (exponentIsNegative, exponent) =>
        return { isNegative, whole, fraction, exponentIsNegative, exponent }
      | none => return { isNegative, whole, fraction })

/-- The number nearest to what is written.  Powers of ten far outside the range of the format are
decided without computing them. -/
def Written.value (n : Written) : Real :=
  let digits := number 10 (n.whole ++ n.fraction)
  let exponent : Int := number 10 n.exponent
  let power := (if n.exponentIsNegative then -exponent else exponent) - n.fraction.length
  let places : Int := (n.whole ++ n.fraction).length
  if digits = 0 || power + places < -400 then .finite n.isNegative Binary64.zero
  else if 400 < power then .infinite n.isNegative
  else
    match Binary64.ofDecimal digits power with
    | some magnitude => .finite n.isNegative magnitude
    | none => .infinite n.isNegative

/-- Reads one of the words for infinity and for no number, with a sign or without. -/
def realWord : Reader Real := do
  let sign ← optional (satisfy isSign)
  orElse
    (do literal ['i', 'n', 'f']; return .infinite (sign = some '-'))
    (do literal ['n', 'a', 'n']; return .nan)

/-- Reads a floating-point number.  One in digits may fall short of the range on the negative side, but
must not exceed it. -/
def real : Reader Real :=
  (named · "floating-point number") fun s =>
    orElse
      (fun s =>
        match realDigits s with
        | .error refusal => .error refusal
        | .ok (n, s') =>
          if n.value = .infinite false then .error { place := s, isFinal := true }
          else .ok (n.value, s'))
      realWord s

end Traversal.Toml
