import Traversal.Decimal.Layout
import Traversal.Toml.Fault

/-!
# Values and tables

The data of a document.  A value is written in one place; a table is put together from the entries
under its header and from dotted keys, and remembers how it came about, because that decides what may
still be added to it.
-/

namespace Traversal.Toml

/-- A floating-point number. -/
inductive Real
  | finite (isNegative : Bool) (magnitude : Binary64)
  | infinite (isNegative : Bool)
  | nan
deriving DecidableEq, Repr

/-- The text of a floating-point number. -/
def Real.render : Real → String
  | finite isNegative magnitude => Layout.positional.render isNegative magnitude
  | infinite isNegative => if isNegative then "-inf" else "inf"
  | nan => "NaN"

/-- A value. -/
inductive Value
  | text (text : String)
  | integer (n : Int)
  | real (x : Real)
  | boolean (b : Bool)
  /-- A date, a time of day or both, as it was written. -/
  | moment (chars : List Char)
  | list (elements : List (Value × Span))
  /-- A table in braces; a dotted one came about through a dotted key. -/
  | inline (isDotted : Bool) (entries : List (String × Value))

/-- The name of a value's type. -/
def Value.typeName : Value → String
  | text _ => "string"
  | integer _ => "integer"
  | real _ => "float"
  | boolean _ => "boolean"
  | moment _ => "datetime"
  | list _ => "array"
  | inline _ _ => "inline table"

/-- A key and where it was written first. -/
structure Key where
  name : String
  span : Span
deriving DecidableEq, Repr

/-- How a table came about. -/
structure Origin where
  /-- It was only named on the way to another one. -/
  isImplicit : Bool := false
  /-- It came about through a dotted key. -/
  isDotted : Bool := false
  /-- From its header to its last entry, if it has a header. -/
  span : Option Span := none
deriving Repr

/-- What a key of a table stands for. -/
inductive Item
  | value (value : Value) (span : Span)
  | table (origin : Origin) (entries : List (Key × Item))
  /-- The tables of one repeated header. -/
  | tables (tables : List (Origin × List (Key × Item)))

/-- A table with its entries in the order in which their keys came up. -/
structure Table where
  origin : Origin := {}
  entries : List (Key × Item) := []

namespace Table

/-- What a key stands for. -/
def get? (t : Table) (name : String) : Option Item :=
  (t.entries.find? (·.1.name = name)).map (·.2)

/-- Lets a key stand for something: in its old place if it is there, behind all others if not. -/
def set (t : Table) (key : Key) (item : Item) : Table :=
  if (t.get? key.name).isSome then
    { t with entries := t.entries.map fun e => if e.1.name = key.name then (e.1, item) else e }
  else { t with entries := t.entries ++ [(key, item)] }

/-- Removes a key. -/
def erase (t : Table) (name : String) : Table :=
  { t with entries := t.entries.filter (·.1.name ≠ name) }

end Table

/-- The stretch over the tables of a repeated header. -/
def spanOfTables (tables : List (Origin × List (Key × Item))) : Option Span :=
  match tables.head?.bind (·.1.span), tables.getLast?.bind (·.1.span) with
  | some first, some last => some ⟨first.start, last.stop⟩
  | _, _ => none

end Traversal.Toml
