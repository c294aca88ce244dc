/-!
# Byte strings

Records, payloads and stream contents are raw bytes and need not be text.  A byte string is a plain
list, so that every law about streams is a law about lists.  Text enters through `Bytes.ofText`,
its UTF-8 encoding.
-/

namespace Traversal

/-- A finite string of bytes. -/
abbrev Bytes := List UInt8

namespace Bytes

/-- The byte that ends a record. -/
def newline : UInt8 := 10

/-- The UTF-8 encoding of a sequence of characters. -/
def ofChars (chars : List Char) : Bytes :=
  chars.flatMap String.utf8EncodeChar

/-- The UTF-8 encoding of a text. -/
def ofText (text : String) : Bytes :=
  ofChars text.toList

/-- Whether `pattern` occurs in a byte string as contiguous bytes. -/
def occurs (pattern : Bytes) : Bytes → Bool
  | [] => pattern.isEmpty
  | b :: rest => pattern.isPrefixOf (b :: rest) || occurs pattern rest

@[simp] theorem ofChars_nil : ofChars [] = [] := rfl

@[simp] theorem ofChars_cons (c : Char) (rest : List Char) :
    ofChars (c :: rest) = String.utf8EncodeChar c ++ ofChars rest := rfl

theorem ofChars_append (s t : List Char) : ofChars (s ++ t) = ofChars s ++ ofChars t := by
  simp [ofChars]

theorem occurs_iff {pattern bytes : Bytes} : occurs pattern bytes = true ↔ pattern <:+: bytes := by
  induction bytes with
  | nil => cases pattern <;> simp [occurs]
  | cons b rest ih => simp [occurs, ih, List.infix_cons_iff]

end Bytes
end Traversal
