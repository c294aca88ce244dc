import Traversal.Shell.Pattern

/-!
# Fields

The expansion of a word is a sequence of glyphs, each of which remembers where its character comes from.
What an expansion yields outside of quotes is split into fields at separators; what is quoted or stands in
the script is not.
-/

namespace Traversal.Shell

/-- A character of an expanded word, or a mark between characters. -/
inductive Glyph
  /-- It stands in the script and is not quoted. -/
  | bare (c : Char)
  /-- It comes from an expansion that is not quoted. -/
  | loose (c : Char)
  | fixed (c : Char)
  /-- A quotation begins here, which makes a field even if it is empty. -/
  | quotation
  /-- One argument ends here and another one begins. -/
  | border
deriving DecidableEq, Repr

namespace Glyph

/-- The character of a glyph; a border is a blank. -/
def text : Glyph → Text
  | bare c => [c]
  | loose c => [c]
  | fixed c => [c]
  | quotation => []
  | border => [' ']

/-- The character of a glyph and whether it has a special meaning in a pattern. -/
def marked : Glyph → List (Char × Bool)
  | bare c => [(c, true)]
  | loose c => [(c, true)]
  | fixed c => [(c, false)]
  | quotation => []
  | border => [(' ', false)]

end Glyph

/-- An expanded word. -/
abbrev Expansion := List Glyph

namespace Expansion

/-- The text of an expanded word. -/
def text (e : Expansion) : Text :=
  e.flatMap Glyph.text

/-- An expanded word as a pattern. -/
def pattern (e : Expansion) : Pattern :=
  Pattern.ofChars (e.flatMap Glyph.marked)

/-- What a text adds to a word, quoted or not. -/
def ofText (isQuoted : Bool) (t : Text) : Expansion :=
  if isQuoted then .quotation :: t.map .fixed else t.map .loose

/-- What arguments add to a word, each by itself. -/
def ofTexts (isQuoted : Bool) (ts : List Text) : Expansion :=
  [Glyph.border].intercalate (ts.map (ofText isQuoted))

end Expansion

/-- How far the splitting of a word has come. -/
structure Splitter where
  /-- The fields that are complete, latest first. -/
  fieldsRev : List Text := []
  /-- The characters of the field that has begun, latest first. -/
  current : Option Text := none
  /-- A field has been ended by a blank, which may belong to a separator. -/
  isAfterBlank : Bool := false
deriving DecidableEq, Repr

namespace Splitter

/-- Adds a character to a field. -/
def add (s : Splitter) (c : Char) : Splitter :=
  { s with current := some (c :: s.current.getD []), isAfterBlank := false }

/-- Begins a field if none has begun. -/
def start (s : Splitter) : Splitter :=
  { s with current := some (s.current.getD []), isAfterBlank := false }

/-- Ends the field that has begun. -/
def stop (s : Splitter) : Splitter :=
  match s.current with
  | some field => { s with fieldsRev := field.reverse :: s.fieldsRev, current := none }
  | none => s

/-- Deals with a separator; blanks around another separator belong to it. -/
def separate (s : Splitter) (isBlank : Bool) : Splitter :=
  match s.current, isBlank with
  | some _, _ => { s.stop with isAfterBlank := isBlank }
  | none, true => s
  | none, false =>
    if s.isAfterBlank then { s with isAfterBlank := false } else s.start.stop

/-- Takes a glyph. -/
def take (separators : Text) (s : Splitter) : Glyph → Splitter
  | .bare c => s.add c
  | .fixed c => s.add c
  | .quotation => s.start
  | .border => { s.stop with isAfterBlank := false }
  | .loose c =>
    if separators.contains c then s.separate (c = ' ' || c = '\t' || c = '\n') else s.add c

end Splitter

/-- The fields of an expanded word. -/
def Expansion.fields (separators : Text) (e : Expansion) : List Text :=
  (e.foldl (Splitter.take separators) {}).stop.fieldsRev.reverse

end Traversal.Shell
