import Traversal.Text.Printable

/-!
# Quoted literals

`Text.literal` writes a text between double quotes so that it stays on one line and can be read
back: quotes and backslashes take a backslash, the usual control characters have short names, and
every other character that is not printable is written by its code point.
-/

namespace Traversal.Text

/-- The lowercase hexadecimal digits of a number, without leading zeros. -/
def hex (n : Nat) : List Char :=
  Nat.toDigits 16 n

/-- How one character is written inside a quoted literal. -/
def escaped (c : Char) : List Char :=
  match c with
  | '\x00' => ['\\', '0']
  | '\t' => ['\\', 't']
  | '\r' => ['\\', 'r']
  | '\n' => ['\\', 'n']
  | '\\' => ['\\', '\\']
  | '"' => ['\\', '"']
  | c => if isPrintable c then [c] else ['\\', 'u', '\x7b'] ++ hex c.toNat ++ ['\x7d']

/-- A text as a quoted literal. -/
def literal (text : String) : String :=
  String.ofList ('"' :: text.toList.flatMap escaped ++ ['"'])

end Traversal.Text
