import Mathlib
import Traversal.Proofs.Quoted

/-!
# JSON strings in every spelling

One text can be spelled in many ways inside a JSON string: a character stands for itself, or it is a short
escape, or it is an escape of one or two code units.  A `Piece` is a part of such a spelling.  What a
spelling stands for is `text?`; a spelling with half a surrogate pair stands for nothing.

A reader of strings finds the text of every spelling that has one and refuses the others
(`toOption_readString`).  A reader that only wants to get past a string gets past all of them
(`skipString_body`).
-/

namespace Traversal.Json

open Bytes

/-! ### Spellings -/

/-- A hexadecimal digit, whose letter is in either case. -/
structure HexDigit where
  value : Fin 16
  isUpper : Bool
deriving DecidableEq, Repr

/-- The byte of a hexadecimal digit. -/
def HexDigit.byte (d : HexDigit) : UInt8 :=
  UInt8.ofNat (d.value + if d.value < 10 then 48 else if d.isUpper then 55 else 87)

/-- The four hexadecimal digits of a code unit. -/
structure CodeUnit where
  first : HexDigit
  second : HexDigit
  third : HexDigit
  fourth : HexDigit
deriving DecidableEq, Repr

/-- The digits of a code unit, in order. -/
def CodeUnit.bytes (u : CodeUnit) : Bytes :=
  [u.first.byte, u.second.byte, u.third.byte, u.fourth.byte]

/-- The number of a code unit. -/
def CodeUnit.value (u : CodeUnit) : Nat :=
  ((u.first.value * 16 + u.second.value) * 16 + u.third.value) * 16 + u.fourth.value

/-- The characters that have an escape of a single letter. -/
inductive ShortEscape
  | quote | backslash | slash | backspace | formFeed | lineFeed | carriageReturn | tab
deriving DecidableEq, Repr

/-- What follows the backslash of a short escape. -/
def ShortEscape.letter : ShortEscape → UInt8
  | quote => 34
  | backslash => 92
  | slash => 47
  | backspace => 98
  | formFeed => 102
  | lineFeed => 110
  | carriageReturn => 114
  | tab => 116

/-- What a short escape stands for. -/
def ShortEscape.char : ShortEscape → Char
  | quote => '"'
  | backslash => '\\'
  | slash => '/'
  | backspace => '\x08'
  | formFeed => '\x0c'
  | lineFeed => '\n'
  | carriageReturn => '\r'
  | tab => '\t'

/-- A part of a string between its quotes. -/
inductive Piece
  /-- A character that may stand for itself. -/
  | plain (c : Char) (hquote : c ≠ '"') (hslash : c ≠ '\\') (hcontrol : 32 ≤ c.toNat)
  | short (escape : ShortEscape)
  /-- A code unit, which may be half of a surrogate pair. -/
  | unit (unit : CodeUnit)
deriving DecidableEq, Repr

/-- The bytes of a part of a string. -/
def Piece.bytes : Piece → Bytes
  | plain c _ _ _ => String.utf8EncodeChar c
  | short e => [92, e.letter]
  | unit u => 92 :: 117 :: u.bytes

/-- The bytes of a string between its quotes. -/
def body (pieces : List Piece) : Bytes :=
  pieces.flatMap Piece.bytes

/-- The characters that a spelling stands for, if each surrogate in it has its other half. -/
def chars? : List Piece → Option (List Char)
  | [] => some []
  | .plain c _ _ _ :: rest => (chars? rest).map (c :: ·)
  | .short e :: rest => (chars? rest).map (e.char :: ·)
  | .unit u :: rest =>
    if isTrailing u.value then none
    else if isLeading u.value then
      match rest with
      | .unit u' :: rest =>
        if isTrailing u'.value then (chars? rest).map (paired u.value u'.value :: ·) else none
      | _ => none
    else (chars? rest).map (Char.ofNat u.value :: ·)

/-- What a spelling stands for that begins with a code unit. -/
lemma chars?_unit (u : CodeUnit) (more : List Piece) :
    chars? (.unit u :: more) =
      if isTrailing u.value then none
      else if isLeading u.value then
        match more with
        | .unit u' :: rest =>
          if isTrailing u'.value then (chars? rest).map (paired u.value u'.value :: ·) else none
        | _ => none
      else (chars? more).map (Char.ofNat u.value :: ·) := by
  rw [chars?.eq_def]

/-- The text that a spelling stands for. -/
def text? (pieces : List Piece) : Option String :=
  (chars? pieces).map String.ofList

/-! ### Escapes -/

section Escapes

variable (rest : Bytes)

lemma hexValue_byte (d : HexDigit) : hexValue d.byte = some d.value.val := by
  have hall : ∀ (value : Fin 16) (isUpper : Bool),
      hexValue (HexDigit.byte ⟨value, isUpper⟩) = some value.val := by decide
  exact hall d.value d.isUpper

/-- Four digits are read as their code unit. -/
lemma hex4_bytes (u : CodeUnit) : hex4 (u.bytes ++ rest) = .ok (u.value, rest) := by
  simp only [CodeUnit.bytes, List.cons_append, List.nil_append, hex4, hexValue_byte, CodeUnit.value]

lemma letter_ne (e : ShortEscape) : e.letter ≠ 117 := by
  cases e <;> decide

lemma shortEscape_letter (e : ShortEscape) : shortEscape e.letter = some e.char := by
  cases e <;> rfl

/-- A short escape is read as its character. -/
lemma escape_short (e : ShortEscape) : escape (e.letter :: rest) = .ok (e.char, rest) := by
  rw [escape, if_neg (letter_ne e), shortEscape_letter]

/-- What is read after a code unit depends on whether it is half of a pair. -/
lemma escape_unit (u : CodeUnit) :
    escape (117 :: (u.bytes ++ rest)) =
      if isTrailing u.value then stop .loneSurrogate rest
      else if isLeading u.value then do
        let rest ← surrogateMark 92 rest
        let rest ← surrogateMark 117 rest
        let (m, rest) ← hex4 rest
        if isTrailing m then .ok (paired u.value m, rest) else stop .loneSurrogate rest
      else .ok (Char.ofNat u.value, rest) := by
  rw [escape, if_pos rfl, unicodeEscape, hex4_bytes]
  rfl

/-- A leading surrogate needs a trailing one behind it. -/
lemma escape_leading {u : CodeUnit} (u' : CodeUnit) (htrailing : isTrailing u.value = false)
    (hleading : isLeading u.value = true) :
    escape (117 :: (u.bytes ++ (92 :: 117 :: (u'.bytes ++ rest)))) =
      if isTrailing u'.value then .ok (paired u.value u'.value, rest) else stop .loneSurrogate rest := by
  rw [escape_unit]
  simp only [htrailing, hleading, Bool.false_eq_true, if_false, if_true, surrogateMark, bind, Except.bind,
    hex4_bytes]

/-- A leading surrogate with no code unit behind it is refused. -/
lemma escape_lone {u : CodeUnit} (htrailing : isTrailing u.value = false)
    (hleading : isLeading u.value = true) {pieces : List Piece}
    (hpieces : ∀ u' more, pieces ≠ .unit u' :: more) :
    (escape (117 :: (u.bytes ++ (body pieces ++ 34 :: rest)))).toOption = none := by
  have hmark : ∀ b more, b ≠ 92 → surrogateMark 92 (b :: more) = stop .escapeUnfinished more :=
    fun b more hb => by rw [surrogateMark, if_neg hb]
  rw [escape_unit]
  simp only [htrailing, hleading, Bool.false_eq_true, if_false, if_true]
  cases pieces with
  | nil => rfl
  | cons p more =>
    cases p with
    | unit u' => exact absurd rfl (hpieces u' more)
    | short e =>
      simp only [body, List.flatMap_cons, Piece.bytes, List.cons_append, List.nil_append, surrogateMark,
        if_true, letter_ne, if_false, bind, Except.bind, stop]
      rfl
    | plain c hquote hslash hcontrol =>
      obtain ⟨b, tail, hbytes⟩ : ∃ b tail, String.utf8EncodeChar c = b :: tail :=
        List.exists_cons_of_ne_nil String.utf8EncodeChar_ne_nil
      have hb : b ≠ 92 := plain_of_mem_encode hquote hslash hcontrol (hbytes ▸ List.mem_cons_self) |>.2.1
      simp only [body, List.flatMap_cons, Piece.bytes, hbytes, List.cons_append, hmark b _ hb, bind,
        Except.bind, stop]
      rfl

end Escapes

/-! ### Reading strings -/

/-- The bytes of a string begin with those of its first part. -/
lemma body_cons (p : Piece) (more : List Piece) (rest : Bytes) :
    body (p :: more) ++ rest = p.bytes ++ (body more ++ rest) := by
  rw [body, List.flatMap_cons, List.append_assoc]
  rfl

/-- An escape that is refused ends the reading. -/
lemma toOption_unquote_of_escape (seen : Bytes) {rest : Bytes} (h : (escape rest).toOption = none) :
    (unquote seen (92 :: rest)).toOption = none := by
  rw [unquote, if_neg (by decide), if_pos rfl]
  split
  · rfl
  · next heq => simp [heq, Except.toOption] at h

/-- A reader of strings finds what a spelling stands for, or it refuses the spelling. -/
theorem toOption_unquote (seen : Bytes) (pieces : List Piece) (rest : Bytes) :
    (unquote seen (body pieces ++ 34 :: rest)).toOption =
      (chars? pieces).map fun chars => ((ofChars chars).reverse ++ seen, rest) := by
  -- A character that is found comes before all that the rest stands for.
  have hfound : ∀ (seen : Bytes) (c : Char) (found? : Option (List Char)),
      (found?.map fun chars =>
          ((ofChars chars).reverse ++ ((String.utf8EncodeChar c).reverse ++ seen), rest)) =
        (found?.map (c :: ·)).map fun chars => ((ofChars chars).reverse ++ seen, rest) := by
    intro seen c found?
    rw [Option.map_map]
    refine congrArg (Option.map · found?) (funext fun chars => ?_)
    simp only [Function.comp, ofChars_cons, List.reverse_append, List.append_assoc]
  induction pieces using chars?.induct generalizing seen with
  | case1 =>
    change (unquote seen (34 :: rest)).toOption = _
    rw [unquote_quote]
    rfl
  | case2 c hquote hslash hcontrol more ih =>
    rw [body_cons, Piece.bytes, unquote_plain_append _ _ fun b hb =>
      plain_of_mem_encode hquote hslash hcontrol hb, ih, hfound]
    rfl
  | case3 e more ih =>
    have hescape := escape_short (body more ++ 34 :: rest) e
    rw [body_cons, Piece.bytes, List.cons_append, List.singleton_append, unquote_escape _ _ hescape, ih,
      hfound]
    rfl
  | case4 u more htrailing =>
    rw [body_cons, chars?_unit, if_pos htrailing, Piece.bytes, List.cons_append, List.cons_append]
    refine toOption_unquote_of_escape seen ?_
    rw [escape_unit, if_pos htrailing]
    rfl
  | case5 u htrailing hleading u' more htrailing' ih =>
    have hescape := escape_leading (body more ++ 34 :: rest) u' (by simpa using htrailing) hleading
    rw [if_pos htrailing'] at hescape
    rw [body_cons, body_cons, Piece.bytes, Piece.bytes, List.cons_append, List.cons_append, List.cons_append,
      List.cons_append, unquote_escape _ _ hescape, ih, hfound, chars?, if_neg htrailing, if_pos hleading,
      if_pos htrailing']
  | case6 u htrailing hleading u' more htrailing' =>
    have hescape := escape_leading (body more ++ 34 :: rest) u' (by simpa using htrailing) hleading
    rw [if_neg htrailing'] at hescape
    rw [body_cons, body_cons, Piece.bytes, Piece.bytes, List.cons_append, List.cons_append, List.cons_append,
      List.cons_append, chars?, if_neg htrailing, if_pos hleading, if_neg htrailing']
    refine toOption_unquote_of_escape seen ?_
    rw [hescape]
    rfl
  | case7 u more htrailing hleading hmore =>
    have hnone : chars? (.unit u :: more) = none := by
      rw [chars?_unit, if_neg htrailing, if_pos hleading]
      split
      · exact absurd rfl (hmore _ _)
      · rfl
    rw [hnone, body_cons, Piece.bytes, List.cons_append, List.cons_append]
    exact toOption_unquote_of_escape seen (escape_lone rest (by simpa using htrailing) hleading hmore)
  | case8 u more htrailing hleading ih =>
    have hescape := escape_unit (body more ++ 34 :: rest) u
    rw [if_neg htrailing, if_neg hleading] at hescape
    rw [body_cons, Piece.bytes, List.cons_append, List.cons_append, unquote_escape _ _ hescape, ih, hfound,
      chars?_unit, if_neg htrailing, if_neg hleading]

/-- A string is read as the text that its spelling stands for, or it is refused. -/
theorem toOption_readString (pieces : List Piece) (rest : Bytes) :
    (readString (body pieces ++ 34 :: rest)).toOption = (text? pieces).map (·, rest) := by
  have hread := toOption_unquote [] pieces rest
  unfold readString text?
  cases hchars : chars? pieces with
  | none =>
    rw [hchars] at hread
    cases hunquote : unquote [] (body pieces ++ 34 :: rest) with
    | error misread => rfl
    | ok read => simp [hunquote, Except.toOption] at hread
  | some chars =>
    rw [hchars] at hread
    cases hunquote : unquote [] (body pieces ++ 34 :: rest) with
    | error misread => simp [hunquote, Except.toOption] at hread
    | ok read =>
      obtain rfl : read = ((ofChars chars).reverse, rest) := by
        simpa [hunquote, Except.toOption] using hread
      simp only [bind, Except.bind, List.reverse_reverse, Utf8.decode_ofChars]
      rfl

/-! ### Every text has a spelling -/

/-- A character as it may stand in a string: as itself if it may, otherwise as an escape. -/
def Piece.ofChar (c : Char) : Piece :=
  if h : c ≠ '"' ∧ c ≠ '\\' ∧ 32 ≤ c.toNat then .plain c h.1 h.2.1 h.2.2
  else if c = '"' then .short .quote
  else if c = '\\' then .short .backslash
  else .unit ⟨⟨0, false⟩, ⟨0, false⟩, ⟨Fin.ofNat 16 (c.toNat / 16), false⟩, ⟨Fin.ofNat 16 c.toNat, false⟩⟩

/-- A spelling of a text. -/
def spelling (text : String) : List Piece :=
  text.toList.map Piece.ofChar

/-- Every text is what some spelling stands for. -/
theorem text?_spelling (text : String) : text? (spelling text) = some text := by
  have hchars : ∀ chars : List Char, chars? (chars.map Piece.ofChar) = some chars := by
    intro chars
    induction chars with
    | nil => rfl
    | cons c chars ih =>
      rw [List.map_cons, Piece.ofChar]
      split
      · rw [chars?, ih, Option.map_some]
      split
      · next heq => rw [chars?, ih, Option.map_some, heq, ShortEscape.char]
      split
      · next heq => rw [chars?, ih, Option.map_some, heq, ShortEscape.char]
      · next hplain hquote hslash =>
        have hcontrol : c.toNat < 32 := by
          by_contra h
          exact hplain ⟨hquote, hslash, by omega⟩
        have hvalue : CodeUnit.value
            ⟨⟨0, false⟩, ⟨0, false⟩, ⟨Fin.ofNat 16 (c.toNat / 16), false⟩, ⟨Fin.ofNat 16 c.toNat, false⟩⟩ =
              c.toNat := by
          simp only [CodeUnit.value, Fin.val_zero, Fin.val_ofNat]
          omega
        have htrailing : isTrailing c.toNat = false := by simp [isTrailing]; omega
        have hleading : isLeading c.toNat = false := by simp [isLeading]; omega
        rw [chars?_unit, hvalue, htrailing, hleading, ih, Option.map_some, Char.ofNat_toNat]
        rfl
  rw [text?, spelling, hchars, Option.map_some, String.ofList_toList]

/-! ### Getting past strings -/

/-- Bytes that stand for themselves are passed over. -/
lemma skipString_plain_append {bytes : Bytes} (rest : Bytes)
    (h : ∀ b ∈ bytes, b ≠ 34 ∧ b ≠ 92 ∧ 32 ≤ b.toNat) : skipString (bytes ++ rest) = skipString rest := by
  induction bytes with
  | nil => rfl
  | cons b bytes ih =>
    obtain ⟨hquote, hslash, hcontrol⟩ := h b List.mem_cons_self
    have hraw : ¬ b < 32 := by
      rw [UInt8.lt_iff_toNat_lt]
      exact Nat.not_lt.mpr hcontrol
    rw [List.cons_append, skipString, if_neg hquote, if_neg hslash, if_neg hraw]
    exact ih fun b' hb' => h b' (List.mem_cons_of_mem _ hb')

/-- An escape is passed over. -/
lemma skipString_escape {rest after : Bytes} (h : skipEscape rest = .ok after) :
    skipString (92 :: rest) = skipString after := by
  rw [skipString, if_neg (by decide), if_pos rfl]
  split
  · next heq =>
    rw [h] at heq
    cases heq
  · next heq =>
    rw [h] at heq
    cases heq
    rfl

/-- A part of a string is passed over, whatever it stands for. -/
lemma skipString_piece (p : Piece) (rest : Bytes) : skipString (p.bytes ++ rest) = skipString rest := by
  cases p with
  | plain c hquote hslash hcontrol =>
    exact skipString_plain_append rest fun b hb => plain_of_mem_encode hquote hslash hcontrol hb
  | short e =>
    have hescape : skipEscape (e.letter :: rest) = .ok rest := by
      rw [skipEscape, if_neg (letter_ne e), shortEscape_letter]
    exact skipString_escape hescape
  | unit u =>
    have hescape : skipEscape (117 :: (u.bytes ++ rest)) = .ok rest := by
      rw [skipEscape, if_pos rfl, hex4_bytes]
      rfl
    exact skipString_escape hescape

/-- A reader gets past every string, also past one that stands for no text. -/
theorem skipString_body (pieces : List Piece) (rest : Bytes) :
    skipString (body pieces ++ 34 :: rest) = .ok rest := by
  induction pieces with
  | nil =>
    change skipString (34 :: rest) = .ok rest
    rw [skipString, if_pos rfl]
  | cons p more ih => rw [body_cons, skipString_piece, ih]

end Traversal.Json
