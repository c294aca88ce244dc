import Traversal.Toml.Fault

/-!
# Readers

A reader takes what it understands from the front of a document.  When it refuses, it names the
place it had reached; a final refusal forbids that anything else be tried instead.  On the way out a
refusal collects the construct that was broken, the innermost only, and what could have stood there.
-/

namespace Traversal.Toml

/-- Why and where a reader stopped. -/
structure Refusal where
  place : Place
  isFinal : Bool := false
  construct : Option String := none
  expected : List String := []
  objection : Option Objection := none
deriving Repr

/-- What a reader gives back: its value and what it left unread. -/
abbrev Outcome (α : Type) := Except Refusal (α × Place)

/-- Takes what it understands from the front of a document. -/
def Reader (α : Type) := Place → Outcome α

namespace Reader

variable {α β : Type}

/-- Reads nothing. -/
def pure (a : α) : Reader α := fun s => .ok (a, s)

/-- Reads one thing and then another. -/
def bind (r : Reader α) (f : α → Reader β) : Reader β := fun s =>
  match r s with
  | .ok (a, s') => f a s'
  | .error refusal => .error refusal

instance : Monad Reader where
  pure := pure
  bind := bind

/-- Refuses on the spot. -/
def refuse : Reader α := fun s => .error { place := s }

/-- Reads one character of a class. -/
def satisfy (p : Char → Bool) : Reader Char
  | [] => .error { place := [] }
  | c :: s => if p c then .ok (c, s) else .error { place := c :: s }

/-- Reads a given character. -/
def char (c : Char) : Reader Char := satisfy (· = c)

/-- Reads given characters; it stops before the first of them if they are not all there. -/
def literal (text : List Char) : Reader Unit := fun s =>
  if text.isPrefixOf s then .ok ((), s.drop text.length) else .error { place := s }

/-- Reads all characters of a class. -/
def takeWhile (p : Char → Bool) : Reader (List Char) := fun s =>
  .ok (s.takeWhile p, s.dropWhile p)

/-- Reads all characters of a class, of which there must be one. -/
def takeWhile1 (p : Char → Bool) : Reader (List Char) := fun s =>
  match s.takeWhile p with
  | [] => .error { place := s }
  | chars => .ok (chars, s.dropWhile p)

/-- Reads at most `n` characters of a class. -/
def takeUpTo (n : Nat) (p : Char → Bool) : Reader (List Char) := fun s =>
  let chars := (s.take n).takeWhile p
  .ok (chars, s.drop chars.length)

/-- Reads exactly `n` characters of a class, or stops before the first. -/
def takeExactly (n : Nat) (p : Char → Bool) : Reader (List Char) := fun s =>
  let chars := (s.take n).takeWhile p
  if chars.length = n then .ok (chars, s.drop n) else .error { place := s }

/-- Looks ahead without reading; it stays in place also if it refuses. -/
def peek (r : Reader α) : Reader α := fun s =>
  match r s with
  | .ok (a, _) => .ok (a, s)
  | .error refusal => .error { refusal with place := s }

/-- Reads something if it is there. -/
def optional (r : Reader α) : Reader (Option α) := fun s =>
  match r s with
  | .ok (a, s') => .ok (some a, s')
  | .error refusal => if refusal.isFinal then .error refusal else .ok (none, s)

/-- Reads the first of two things that is there. -/
def orElse (r r' : Reader α) : Reader α := fun s =>
  match r s with
  | .ok result => .ok result
  | .error refusal => if refusal.isFinal then .error refusal else r' s

/-- Reads something that must be there. -/
def must (r : Reader α) : Reader α := fun s =>
  (r s).mapError fun refusal => { refusal with isFinal := true }

/-- Names the construct that is being read. -/
def named (r : Reader α) (construct : String) : Reader α := fun s =>
  (r s).mapError fun refusal => { refusal with construct := refusal.construct <|> some construct }

/-- Names what could have stood in place of something refused. -/
def expecting (r : Reader α) (expected : List String) : Reader α := fun s =>
  (r s).mapError fun refusal => { refusal with expected := refusal.expected ++ expected }

/-- Subjects what was read to a check; an objection is raised at its beginning. -/
def checked (r : Reader α) (check : α → Except Objection β) : Reader β := fun s =>
  match r s with
  | .error refusal => .error refusal
  | .ok (a, s') =>
    match check a with
    | .ok b => .ok (b, s')
    | .error objection => .error { place := s, objection := some objection }

/-- Gives what was read together with the stretch it was read from. -/
def spanned (r : Reader α) : Reader (α × Span) := fun s =>
  match r s with
  | .ok (a, s') => .ok ((a, ⟨s, s'⟩), s')
  | .error refusal => .error refusal

/-- Reads a thing at most `n` times, as often as it is there, behind those read before, which are given
latest first. -/
def upTo (r : Reader α) : Nat → List α → Reader (List α)
  | 0, before => pure before.reverse
  | n + 1, before => fun s =>
    match r s with
    | .ok (a, s') => upTo r n (a :: before) s'
    | .error refusal => if refusal.isFinal then .error refusal else .ok (before.reverse, s)

/-- Reads a thing that takes at least one character as often as it is there. -/
def many (r : Reader α) : Reader (List α) := fun s => upTo r s.length [] s

/-- Reads a thing that takes at least one character as often as it is there, at least once. -/
def many1 (r : Reader α) : Reader (List α) := do
  let a ← r
  let as ← many r
  return a :: as

/-- Reads a thing at most `n` times, whenever the next character is one that it begins with. -/
def upToFrom (begins : Char → Bool) (r : Reader Unit) : Nat → Reader Unit
  | 0 => pure ()
  | n + 1 => fun s =>
    match s with
    | [] => .ok ((), s)
    | c :: _ => if begins c then r.bind (fun _ => upToFrom begins r n) s else .ok ((), s)

/-- Reads a thing that takes at least one character whenever the next character is one that it begins with;
what begins like it must be one. -/
def eachFrom (begins : Char → Bool) (r : Reader Unit) : Reader Unit := fun s =>
  upToFrom begins r s.length s

/-- Reads things with separators between them; a separator without a thing behind it is left. -/
def separated1 (r : Reader α) (separator : Reader Unit) : Reader (List α) := do
  let a ← r
  let as ← many (do separator; r)
  return a :: as

/-- Reads things with separators between them, or nothing. -/
def separated (r : Reader α) (separator : Reader Unit) : Reader (List α) := fun s =>
  match optional (separated1 r separator) s with
  | .ok (as, s') => .ok (as.getD [], s')
  | .error refusal => .error refusal

/-- Succeeds at the end of the document only. -/
def atEnd : Reader Unit
  | [] => .ok ((), [])
  | s => .error { place := s }

end Reader
end Traversal.Toml
