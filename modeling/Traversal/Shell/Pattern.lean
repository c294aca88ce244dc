import Traversal.Shell.Command

/-!
# Patterns

A pattern stands for a set of texts: an asterisk for any text, a question mark for any character, and
brackets for any of the characters in them.  A quoted character stands for itself.
-/

namespace Traversal.Shell

/-- A part of a pattern. -/
inductive Wildcard
  | exactly (c : Char)
  | anyChar
  | anyText
  /-- One of the characters in, or outside, some ranges. -/
  | oneOf (isNegated : Bool) (ranges : List (Char × Char))
deriving DecidableEq, Repr

namespace Wildcard

/-- Whether a part that stands for one character stands for this one. -/
def admits (w : Wildcard) (c : Char) : Bool :=
  match w with
  | exactly d => c = d
  | anyChar => true
  | anyText => false
  | oneOf isNegated ranges => ranges.any (fun r => r.1 ≤ c && c ≤ r.2) != isNegated

end Wildcard

/-- A pattern. -/
abbrev Pattern := List Wildcard

namespace Pattern

/-- Whether a pattern stands for a text. -/
def accepts : Pattern → Text → Bool
  | [], text => text.isEmpty
  | .anyText :: rest, [] => accepts rest []
  | .anyText :: rest, c :: text => accepts rest (c :: text) || accepts (.anyText :: rest) text
  | _ :: _, [] => false
  | w :: rest, c :: text => w.admits c && accepts rest text
termination_by pattern text => pattern.length + text.length

/-- The ranges of a class of characters. -/
def classRanges : String → List (Char × Char)
  | "alpha" => [('a', 'z'), ('A', 'Z')]
  | "digit" => [('0', '9')]
  | "alnum" => [('a', 'z'), ('A', 'Z'), ('0', '9')]
  | "upper" => [('A', 'Z')]
  | "lower" => [('a', 'z')]
  | "space" => [(' ', ' '), ('\t', '\x0d')]
  | "blank" => [(' ', ' '), ('\t', '\t')]
  | "punct" => [('!', '/'), (':', '@'), ('[', Char.ofNat 96), ('\x7b', '~')]
  | "print" => [(' ', '~')]
  | "graph" => [('!', '~')]
  | "cntrl" => [('\x00', '\x1f'), ('\x7f', '\x7f')]
  | "xdigit" => [('0', '9'), ('a', 'f'), ('A', 'F')]
  | _ => []

/-- The ranges in brackets, and what is behind them; the first character never closes them. -/
def ranges (isFirst : Bool) : List (Char × Bool) → Option (List (Char × Char) × List (Char × Bool))
  | [] => none
  | (']', true) :: rest =>
    if isFirst then (ranges false rest).map fun (rs, rest) => ((']', ']') :: rs, rest)
    else some ([], rest)
  | ('[', true) :: (':', true) :: rest =>
    let name := (rest.map (·.1)).takeWhile (· ≠ ':')
    match rest.drop name.length with
    | (':', _) :: (']', _) :: behind =>
      if behind.length < rest.length then
        (ranges false behind).map fun (rs, rest) => (classRanges (String.ofList name) ++ rs, rest)
      else none
    | _ => (ranges false rest).map fun (rs, rest) => (('[', '[') :: (':', ':') :: rs, rest)
  | (a, _) :: ('-', true) :: (b, isActive) :: rest =>
    if b = ']' && isActive then some ([(a, a), ('-', '-')], rest)
    else (ranges false rest).map fun (rs, rest) => ((a, b) :: rs, rest)
  | (a, _) :: rest => (ranges false rest).map fun (rs, rest) => ((a, a) :: rs, rest)
termination_by chars => chars.length

/-- The pattern of at most so many characters, of which those marked have their special meaning. -/
def ofCharsUpTo : Nat → List (Char × Bool) → Pattern
  | 0, _ => []
  | _, [] => []
  | n + 1, ('*', true) :: rest => .anyText :: ofCharsUpTo n rest
  | n + 1, ('?', true) :: rest => .anyChar :: ofCharsUpTo n rest
  | n + 1, ('[', true) :: rest =>
    let isNegated :=
      match rest with
      | (c, true) :: _ => c = '!' || c = '^'
      | _ => false
    match ranges true (if isNegated then rest.tail else rest) with
    | some (rs, behind) => .oneOf isNegated rs :: ofCharsUpTo n behind
    | none => .exactly '[' :: ofCharsUpTo n rest
  | n + 1, (c, _) :: rest => .exactly c :: ofCharsUpTo n rest

/-- The pattern of characters, of which those marked have their special meaning. -/
def ofChars (chars : List (Char × Bool)) : Pattern :=
  ofCharsUpTo chars.length chars

/-- A text without a part at its front or its end that a pattern stands for: the longest such part, or the
shortest. -/
def trim (pattern : Pattern) (isAtFront isGreedy : Bool) (text : Text) : Text :=
  let lengths := List.range (text.length + 1)
  let lengths := if isGreedy then lengths.reverse else lengths
  if isAtFront then
    match lengths.find? fun n => pattern.accepts (text.take n) with
    | some n => text.drop n
    | none => text
  else
    match lengths.find? fun n => pattern.accepts (text.drop (text.length - n)) with
    | some n => text.take (text.length - n)
    | none => text

end Pattern
end Traversal.Shell
