import Mathlib
import Traversal.Json.Extent
import Traversal.Proofs.JsonString

/-!
# The extent of a JSON value

A `Value` is a JSON value together with the way it is written: where the blanks are, how each string is
spelled and how each number.  Its text is `Value.bytes`, and every JSON text is the text of some value.

The reader that skips values gets past each of them and no further (`skipValue_value`).  It works with a
stack of open lists and objects.  `resume` is what it does behind a whole value, and by induction on the
value, reading past it is to resume behind it (`skipNested_value`).  A number goes on as far as it can, so
it matters what follows a value: blanks, a comma, a closing bracket or nothing (`IsDelimited`).
-/

namespace Traversal.Json

/-! ### Blanks -/

/-- A character that may stand between tokens. -/
inductive Blank
  | space | lineFeed | tab | carriageReturn
deriving DecidableEq, Repr

/-- The byte of a blank. -/
def Blank.byte : Blank → UInt8
  | space => 32
  | lineFeed => 10
  | tab => 9
  | carriageReturn => 13

/-- The bytes of some blanks. -/
def blanks (gap : List Blank) : Bytes :=
  gap.map Blank.byte

lemma blanks_append (gap gap' : List Blank) (rest : Bytes) :
    blanks (gap ++ gap') ++ rest = blanks gap ++ (blanks gap' ++ rest) := by
  rw [blanks, List.map_append, List.append_assoc]
  rfl

/-- Blanks are skipped. -/
lemma skipBlank_blanks (gap : List Blank) (rest : Bytes) :
    skipBlank (blanks gap ++ rest) = skipBlank rest := by
  induction gap with
  | nil => rfl
  | cons blank gap ih =>
    have hblank : isBlank blank.byte = true := by cases blank <;> rfl
    rw [← ih, blanks, List.map_cons, List.cons_append, skipBlank, List.dropWhile_cons_of_pos hblank]
    rfl

/-- Blanks are skipped up to what is none. -/
lemma skipBlank_blanks_cons (gap : List Blank) {b : UInt8} (h : isBlank b = false) (rest : Bytes) :
    skipBlank (blanks gap ++ b :: rest) = b :: rest := by
  rw [skipBlank_blanks, skipBlank, List.dropWhile_cons_of_neg (by simp [h])]

/-- Whether a value may end here. -/
def IsDelimited (rest : Bytes) : Prop :=
  ∀ b ∈ rest.head?, isBlank b = true ∨ b = 44 ∨ b = 93 ∨ b = 125

/-- A value may end before blanks, if it may end behind them. -/
lemma IsDelimited.blanks {rest : Bytes} (h : IsDelimited rest) (gap : List Blank) :
    IsDelimited (blanks gap ++ rest) := by
  cases gap with
  | nil => exact h
  | cons blank gap =>
    intro b hb
    obtain rfl : blank.byte = b := by simpa [Json.blanks] using hb
    exact .inl (by cases blank <;> rfl)

/-! ### Numbers -/

/-- The byte of a decimal digit. -/
def digitByte (d : Fin 10) : UInt8 :=
  UInt8.ofNat (48 + d)

/-- At least one decimal digit. -/
structure Digits where
  first : Fin 10
  more : List (Fin 10)
deriving DecidableEq, Repr

/-- The bytes of some digits. -/
def Digits.bytes (ds : Digits) : Bytes :=
  digitByte ds.first :: ds.more.map digitByte

/-- The sign of an exponent. -/
inductive ExponentSign
  | none | plus | minus
deriving DecidableEq, Repr

/-- The bytes of a sign. -/
def ExponentSign.bytes : ExponentSign → Bytes
  | none => []
  | plus => [43]
  | minus => [45]

/-- An exponent, whose letter is in either case. -/
structure Exponent where
  isUpper : Bool
  sign : ExponentSign
  digits : Digits
deriving DecidableEq, Repr

/-- The bytes of an exponent. -/
def Exponent.bytes (e : Exponent) : Bytes :=
  (if e.isUpper then 69 else 101) :: (e.sign.bytes ++ e.digits.bytes)

/-- An integer part.  It has no zero in front. -/
inductive Whole
  | zero
  | positive (first : Fin 9) (more : List (Fin 10))
deriving DecidableEq, Repr

/-- The bytes of an integer part. -/
def Whole.bytes : Whole → Bytes
  | zero => [48]
  | positive first more => UInt8.ofNat (49 + first) :: more.map digitByte

/-- A number as it is written. -/
structure Numeral where
  isNegative : Bool
  whole : Whole
  fraction? : Option Digits
  exponent? : Option Exponent
deriving DecidableEq, Repr

/-- The bytes of a fraction with its point. -/
def fractionBytes : Option Digits → Bytes
  | none => []
  | some ds => 46 :: ds.bytes

/-- The bytes of an exponent, if there is one. -/
def exponentBytes : Option Exponent → Bytes
  | none => []
  | some e => e.bytes

/-- The bytes of a number after its sign. -/
def Numeral.unsigned (n : Numeral) : Bytes :=
  n.whole.bytes ++ (fractionBytes n.fraction? ++ exponentBytes n.exponent?)

/-- The bytes of a number. -/
def Numeral.bytes (n : Numeral) : Bytes :=
  if n.isNegative then 45 :: n.unsigned else n.unsigned

lemma isDigit_digitByte (d : Fin 10) : isDigit (digitByte d) = true := by
  revert d
  decide

/-- Digits are skipped up to what is none. -/
lemma skipDigits_append (ds : List (Fin 10)) {rest : Bytes} (h : startsWithDigit rest = false) :
    skipDigits (ds.map digitByte ++ rest) = rest := by
  induction ds with
  | nil =>
    cases rest with
    | nil => rfl
    | cons b rest => exact List.dropWhile_cons_of_neg (by simpa [startsWithDigit] using h)
  | cons d ds ih => exact (List.dropWhile_cons_of_pos (isDigit_digitByte d)).trans ih

/-- What follows a value goes on no number. -/
lemma IsDelimited.ne {b : UInt8} {rest : Bytes} (h : IsDelimited (b :: rest)) :
    isDigit b = false ∧ b ≠ 46 ∧ b ≠ 101 ∧ b ≠ 69 := by
  have hb := h b rfl
  simp only [isBlank, Bool.or_eq_true, decide_eq_true_eq] at hb
  rcases hb with ((((rfl | rfl) | rfl) | rfl)) | rfl | rfl | rfl <;> decide

section Numbers

variable {rest : Bytes}

/-- What may follow a value does not begin with a digit. -/
lemma IsDelimited.startsWithDigit_eq (h : IsDelimited rest) : startsWithDigit rest = false := by
  cases rest with
  | nil => rfl
  | cons b rest => exact h.ne.1

/-- The end of a number, or an exponent, does not begin with a digit. -/
lemma startsWithDigit_exponent (e? : Option Exponent) (h : IsDelimited rest) :
    startsWithDigit (exponentBytes e? ++ rest) = false := by
  cases e? with
  | none => exact h.startsWithDigit_eq
  | some e =>
    rw [exponentBytes, Exponent.bytes, List.cons_append]
    cases e.isUpper <;> rfl

/-- An exponent is passed over. -/
lemma skipExponent_digits (sign : ExponentSign) (ds : Digits) (h : IsDelimited rest) :
    skipExponent (sign.bytes ++ (ds.bytes ++ rest)) = .ok rest := by
  have hsign : (exponentSign (sign.bytes ++ (ds.bytes ++ rest))).2 = ds.bytes ++ rest := by
    cases sign with
    | plus | minus => rfl
    | none =>
      have hdigit := isDigit_digitByte ds.first
      change (exponentSign (digitByte ds.first :: (ds.more.map digitByte ++ rest))).2 = _
      unfold exponentSign
      split
      · next heq => simp [(List.cons.inj heq).1, isDigit] at hdigit
      · next heq => simp [(List.cons.inj heq).1, isDigit] at hdigit
      · rfl
  unfold skipExponent
  rw [hsign, Digits.bytes, List.cons_append]
  simp only [isDigit_digitByte, if_true, skipDigits_append _ h.startsWithDigit_eq]

/-- What may follow a fraction is passed over. -/
lemma skipTail_exponent (e? : Option Exponent) (h : IsDelimited rest) :
    skipTail (exponentBytes e? ++ rest) = .ok rest := by
  cases e? with
  | none =>
    cases rest with
    | nil => rfl
    | cons b rest =>
      obtain ⟨-, -, hlower, hupper⟩ := h.ne
      simp [exponentBytes, skipTail, hlower, hupper]
  | some e =>
    have hmark : ((if e.isUpper then 69 else 101 : UInt8) = 101 ||
        (if e.isUpper then 69 else 101 : UInt8) = 69) = true := by
      cases e.isUpper <;> rfl
    rw [exponentBytes, Exponent.bytes, List.cons_append, List.append_assoc, skipTail, if_pos hmark]
    exact skipExponent_digits e.sign e.digits h

/-- What may follow the integer part is passed over. -/
lemma skipRest_fraction (ds? : Option Digits) (e? : Option Exponent) (h : IsDelimited rest) :
    skipRest (fractionBytes ds? ++ (exponentBytes e? ++ rest)) = .ok rest := by
  cases ds? with
  | some ds =>
    have hdigits := skipDigits_append (ds.first :: ds.more) (startsWithDigit_exponent e? h)
    change skipRest (46 :: ((ds.first :: ds.more).map digitByte ++ (exponentBytes e? ++ rest))) = _
    rw [skipRest, if_pos rfl, hdigits]
    exact (if_pos (isDigit_digitByte ds.first)).trans (skipTail_exponent e? h)
  | none =>
    rw [← skipTail_exponent e? h]
    change skipRest (exponentBytes e? ++ rest) = _
    cases e? with
    | some e =>
      have hpoint : (if e.isUpper then 69 else 101 : UInt8) ≠ 46 := by cases e.isUpper <;> decide
      rw [exponentBytes, Exponent.bytes, List.cons_append, skipRest, if_neg hpoint]
    | none =>
      cases rest with
      | nil => rfl
      | cons b rest => exact if_neg h.ne.2.1

/-- Neither a fraction nor what may follow one begins with a digit. -/
lemma startsWithDigit_fraction (ds? : Option Digits) (e? : Option Exponent) (h : IsDelimited rest) :
    startsWithDigit (fractionBytes ds? ++ (exponentBytes e? ++ rest)) = false := by
  cases ds? with
  | none => exact startsWithDigit_exponent e? h
  | some ds => rfl

/-- A number is passed over, up to what may follow a value. -/
theorem skipNumber_unsigned (n : Numeral) (h : IsDelimited rest) :
    skipNumber (n.unsigned ++ rest) = .ok rest := by
  have hdigit := startsWithDigit_fraction n.fraction? n.exponent? h
  have hrest := skipRest_fraction n.fraction? n.exponent? h
  rw [Numeral.unsigned, List.append_assoc, List.append_assoc]
  cases n.whole with
  | zero =>
    rw [Whole.bytes, List.singleton_append, skipNumber, if_pos rfl, hdigit]
    exact hrest
  | positive first more =>
    have hfirst : ∀ first : Fin 9, UInt8.ofNat (49 + first) ≠ 48 ∧
        isDigit (UInt8.ofNat (49 + first)) = true := by decide
    rw [Whole.bytes, List.cons_append, skipNumber, if_neg (hfirst first).1, if_pos (hfirst first).2,
      skipDigits_append more hdigit, hrest]

/-- A number begins with its sign or a digit. -/
lemma exists_of_unsigned (n : Numeral) : ∃ b tail, n.unsigned = b :: tail ∧ isDigit b = true := by
  unfold Numeral.unsigned
  cases n.whole with
  | zero => exact ⟨48, _, rfl, rfl⟩
  | positive first more =>
    have hfirst : ∀ first : Fin 9, isDigit (UInt8.ofNat (49 + first)) = true := by decide
    exact ⟨_, _, rfl, hfirst first⟩

end Numbers

/-! ### Values -/

mutual

/-- A value as it is written. -/
inductive Value
  | null
  | boolean (value : Bool)
  | number (numeral : Numeral)
  | string (pieces : List Piece)
  /-- A list; the first blanks are those behind the bracket. -/
  | list (inner : List Blank) (elements : Elements)
  /-- An object; the first blanks are those behind the brace. -/
  | object (inner : List Blank) (entries : Entries)

/-- The elements of a list, each between blanks. -/
inductive Elements
  | nil
  | cons (before : List Blank) (value : Value) (after : List Blank) (rest : Elements)

/-- The entries of an object, with blanks before and behind each token. -/
inductive Entries
  | nil
  | cons (before : List Blank) (name : List Piece) (beforeColon : List Blank) (afterColon : List Blank)
      (value : Value) (after : List Blank) (rest : Entries)

end

/-- The comma that all but the first of some things have in front. -/
def comma (isFirst : Bool) : Bytes :=
  if isFirst then [] else [44]

mutual

/-- The bytes of a value. -/
def Value.bytes : Value → Bytes
  | .null => [110, 117, 108, 108]
  | .boolean true => [116, 114, 117, 101]
  | .boolean false => [102, 97, 108, 115, 101]
  | .number n => n.bytes
  | .string pieces => 34 :: (body pieces ++ [34])
  | .list inner elements => 91 :: (blanks inner ++ (Elements.bytes true elements ++ [93]))
  | .object inner entries => 123 :: (blanks inner ++ (Entries.bytes true entries ++ [125]))

/-- The bytes of some elements. -/
def Elements.bytes (isFirst : Bool) : Elements → Bytes
  | .nil => []
  | .cons before value after rest =>
    comma isFirst ++ (blanks before ++ (value.bytes ++ (blanks after ++ Elements.bytes false rest)))

/-- The bytes of some entries. -/
def Entries.bytes (isFirst : Bool) : Entries → Bytes
  | .nil => []
  | .cons before name beforeColon afterColon value after rest =>
    comma isFirst ++ (blanks before ++ (34 :: (body name ++ (34 :: (blanks beforeColon ++ (58 ::
      (blanks afterColon ++ (value.bytes ++ (blanks after ++ Entries.bytes false rest)))))))))

end

/-- What begins a value tells its kind, and it closes no list. -/
lemma Value.exists_bytes_eq_cons (v : Value) : ∃ b tail, v.bytes = b :: tail ∧ isBlank b = false ∧ b ≠ 93 ∧
    (b = 34 → ∃ pieces, v = .string pieces) ∧ (b = 123 → ∃ inner entries, v = .object inner entries) ∧
    (b = 110 → v = .null) := by
  cases v with
  | null => exact ⟨_, _, rfl, by decide, by decide, by simp, by simp, by simp⟩
  | boolean value => cases value <;> exact ⟨_, _, rfl, by decide, by decide, by simp, by simp, by simp⟩
  | string pieces => exact ⟨_, _, rfl, by decide, by decide, by simp, by simp, by simp⟩
  | list inner elements => exact ⟨_, _, rfl, by decide, by decide, by simp, by simp, by simp⟩
  | object inner entries => exact ⟨_, _, rfl, by decide, by decide, by simp, by simp, by simp⟩
  | number n =>
    obtain ⟨d, tail, hunsigned, hdigit⟩ := exists_of_unsigned n
    rw [Value.bytes, Numeral.bytes]
    cases n.isNegative with
    | true => exact ⟨45, _, rfl, by decide, by decide, by simp, by simp, by simp⟩
    | false =>
      have hd : 48 ≤ d.toNat ∧ d.toNat ≤ 57 := by
        simpa [isDigit, UInt8.le_iff_toNat_le] using hdigit
      have hne : ∀ b : UInt8, d = b → 48 ≤ b.toNat ∧ b.toNat ≤ 57 := by
        rintro b rfl
        exact hd
      refine ⟨d, tail, hunsigned, ?_, fun h => ?_, fun h => ?_, fun h => ?_, fun h => ?_⟩
      · by_contra hblank
        simp only [isBlank, Bool.not_eq_false, Bool.or_eq_true, decide_eq_true_eq] at hblank
        rcases hblank with ((h | h) | h) | h <;> exact absurd (hne _ h) (by decide)
      · exact absurd (hne _ h) (by decide)
      · exact absurd (hne _ h) (by decide)
      · exact absurd (hne _ h) (by decide)
      · exact absurd (hne _ h) (by decide)

/-! ### Getting past a value -/

/-- What the reader does with what comes of a token. -/
def proceed : Except Misread (List Frame × Bytes) → Except Misread Bytes
  | .error misread => .error misread
  | .ok ([], rest) => .ok rest
  | .ok (frame :: outer, rest) => skipNested .lax (frame :: outer) rest

/-- What the reader does behind a whole value, inside these frames. -/
def resume (frames : List Frame) (rest : Bytes) : Except Misread Bytes :=
  proceed (afterValue .lax frames rest)

section Steps

variable {frame : Frame} {frames : List Frame} {rest after : Bytes}

/-- A token is read, and then what follows it. -/
lemma skipNested_of_token {read : Option Frame × Bytes} (h : token .lax frames (skipBlank rest) = .ok read) :
    skipNested .lax frames rest = proceed (afterToken .lax frames read) := by
  rw [skipNested]
  split
  · next heq =>
    rw [h] at heq
    cases heq
  · next heq =>
    rw [h] at heq
    cases heq
    unfold proceed
    split <;> simp_all

/-- Behind a closing bracket the reader resumes outside of it. -/
lemma resume_closer (gap : List Blank) :
    resume (frame :: frames) (blanks gap ++ frame.closer :: rest) = resume frames rest := by
  have hblank : isBlank frame.closer = false := by cases frame <;> rfl
  unfold resume
  rw [afterValue, skipBlank_blanks_cons gap hblank]
  simp only [if_true]

/-- Behind a comma the next value is due. -/
lemma resume_comma (gap : List Blank) (h : key .lax frame rest = .ok after) :
    resume (frame :: frames) (blanks gap ++ 44 :: rest) = skipNested .lax (frame :: frames) after := by
  have hcloser : (44 : UInt8) ≠ frame.closer := by cases frame <;> decide
  unfold resume
  rw [afterValue, skipBlank_blanks_cons gap (by decide)]
  simp only [hcloser, if_false, if_true, nextKey, h, Except.map, proceed]

/-- A frame with nothing in it is a whole value. -/
lemma proceed_empty (gap : List Blank) :
    proceed (afterToken .lax frames (some frame, blanks gap ++ frame.closer :: rest)) =
      resume frames rest := by
  have hblank : isBlank frame.closer = false := by cases frame <;> rfl
  rw [afterToken, afterOpening, skipBlank_blanks_cons gap hblank]
  simp only [if_true]
  rfl

/-- The first value of a frame is due behind the bracket. -/
lemma proceed_opening {b : UInt8} {tail : Bytes} (hhead : skipBlank rest = b :: tail) (hb : b ≠ frame.closer)
    (hkey : key .lax frame rest = .ok after) :
    proceed (afterToken .lax frames (some frame, rest)) = skipNested .lax (frame :: frames) after := by
  rw [afterToken, afterOpening, hhead]
  simp only [hb, if_false, hkey, Except.map, proceed]

/-- The name of an entry is read up to behind its colon. -/
lemma key_object (before : List Blank) (name : List Piece) (beforeColon : List Blank) (rest : Bytes) :
    key .lax .object (blanks before ++ 34 :: (body name ++ 34 :: (blanks beforeColon ++ 58 :: rest))) =
      .ok rest := by
  have hcolon : colon (blanks beforeColon ++ 58 :: rest) = .ok rest := by
    rw [colon, skipBlank_blanks_cons beforeColon (by decide)]
    rfl
  rw [key]
  simp only [skipBlank_blanks_cons before (show isBlank 34 = false by decide), if_true, Rigour.string,
    skipString_body, hcolon]

end Steps

/-- A list or an object goes on with a comma or ends with its bracket, and a value may end before either. -/
lemma isDelimited_cons {b : UInt8} (hb : b = 44 ∨ b = 93 ∨ b = 125) (rest : Bytes) :
    IsDelimited (b :: rest) := by
  intro b' hb'
  obtain rfl : b = b' := by simpa using hb'
  exact .inr hb

/-- Blanks are skipped up to a value. -/
lemma skipBlank_value (gap : List Blank) (v : Value) (rest : Bytes) :
    skipBlank (blanks gap ++ (v.bytes ++ rest)) = v.bytes ++ rest := by
  obtain ⟨b, tail, hbytes, hblank, -⟩ := v.exists_bytes_eq_cons
  rw [hbytes, List.cons_append, skipBlank_blanks_cons gap hblank]

/-- A number is one token. -/
lemma token_number (n : Numeral) (frames : List Frame) {rest : Bytes} (h : IsDelimited rest) :
    token .lax frames (n.bytes ++ rest) = .ok (none, rest) := by
  have hskip := skipNumber_unsigned n h
  rw [Numeral.bytes]
  by_cases hnegative : n.isNegative = true
  · rw [if_pos hnegative, List.cons_append, token]
    simp only [Rigour.number, hskip, Except.map]
    rfl
  · obtain ⟨d, tail, hunsigned, hdigit⟩ := exists_of_unsigned n
    have hd : ∀ b : UInt8, isDigit b = false → d ≠ b := by
      rintro b hb rfl
      simp [hdigit] at hb
    rw [if_neg hnegative]
    rw [hunsigned, List.cons_append] at hskip ⊢
    simp only [token, hd 91 rfl, hd 123 rfl, hd 34 rfl, hd 45 rfl, if_false, hdigit, if_true, Rigour.number,
      hskip, Except.map]

/-- A value may end before whatever comes behind an element. -/
lemma isDelimited_elements (after : List Blank) (more : Elements) (rest : Bytes) :
    IsDelimited (blanks after ++ (Elements.bytes false more ++ 93 :: rest)) := by
  refine IsDelimited.blanks ?_ after
  cases more <;> exact isDelimited_cons (by decide) _

/-- A value may end before whatever comes behind an entry. -/
lemma isDelimited_entries (after : List Blank) (more : Entries) (rest : Bytes) :
    IsDelimited (blanks after ++ (Entries.bytes false more ++ 125 :: rest)) := by
  refine IsDelimited.blanks ?_ after
  cases more <;> exact isDelimited_cons (by decide) _

-- The three go together along a value, its elements and its entries.  The stack of frames is arbitrary, as it
-- is deeper by one inside a list or an object than it is outside.
mutual

/-- To read past a value is to resume behind it. -/
theorem skipNested_value (v : Value) (frames : List Frame) (gap : List Blank) {rest : Bytes}
    (h : IsDelimited rest) :
    skipNested .lax frames (blanks gap ++ (v.bytes ++ rest)) = resume frames rest := by
  have htoken : ∀ read, token .lax frames (v.bytes ++ rest) = .ok read →
      skipNested .lax frames (blanks gap ++ (v.bytes ++ rest)) = proceed (afterToken .lax frames read) :=
    fun read hread => skipNested_of_token (by rw [skipBlank_value, hread])
  cases v with
  | null => exact htoken (none, rest) rfl
  | boolean value => cases value <;> exact htoken (none, rest) rfl
  | number n => exact htoken (none, rest) (token_number n frames h)
  | string pieces =>
    refine htoken (none, rest) ?_
    rw [Value.bytes, List.cons_append, List.append_assoc, List.singleton_append, token]
    simp only [Rigour.string, skipString_body, Except.map]
    rfl
  | list inner elements =>
    refine (htoken (some .list, blanks inner ++ (Elements.bytes true elements ++ 93 :: rest)) ?_).trans
      (proceed_elements elements frames inner rest).1
    simp [Value.bytes, token, Rigour.isTooDeep]
  | object inner entries =>
    refine (htoken (some .object, blanks inner ++ (Entries.bytes true entries ++ 125 :: rest)) ?_).trans
      (proceed_entries entries frames inner rest).1
    simp [Value.bytes, token, Rigour.isTooDeep]

/-- To read past the elements of a list, from the first one or from behind one, is to resume behind the
list. -/
theorem proceed_elements (elements : Elements) (frames : List Frame) (gap : List Blank) (rest : Bytes) :
    proceed (afterToken .lax frames
        (some .list, blanks gap ++ (Elements.bytes true elements ++ 93 :: rest))) = resume frames rest ∧
      resume (.list :: frames) (blanks gap ++ (Elements.bytes false elements ++ 93 :: rest)) =
        resume frames rest := by
  cases elements with
  | nil => exact ⟨proceed_empty gap, resume_closer gap⟩
  | cons before value after more =>
    have hvalue : ∀ gap', skipNested .lax (.list :: frames) (blanks gap' ++ (value.bytes ++
        (blanks after ++ (Elements.bytes false more ++ 93 :: rest)))) = resume frames rest := by
      intro gap'
      rw [skipNested_value value _ gap' (isDelimited_elements after more rest)]
      exact (proceed_elements more frames after rest).2
    simp only [Elements.bytes, comma, if_true, Bool.false_eq_true, if_false, List.nil_append,
      List.cons_append, List.append_assoc]
    constructor
    · -- The first element must not be taken for the end of the list.
      obtain ⟨b, tail, hbytes, -, hb, -⟩ := value.exists_bytes_eq_cons
      rw [← blanks_append, ← hvalue (gap ++ before)]
      have hhead : skipBlank (blanks (gap ++ before) ++ (value.bytes ++ (blanks after ++
          (Elements.bytes false more ++ 93 :: rest)))) = b :: (tail ++ (blanks after ++
          (Elements.bytes false more ++ 93 :: rest))) := by
        rw [skipBlank_value, hbytes, List.cons_append]
      exact proceed_opening hhead hb rfl
    · rw [← hvalue before]
      exact resume_comma gap rfl

/-- To read past the entries of an object, from the first one or from behind one, is to resume behind the
object. -/
theorem proceed_entries (entries : Entries) (frames : List Frame) (gap : List Blank) (rest : Bytes) :
    proceed (afterToken .lax frames
        (some .object, blanks gap ++ (Entries.bytes true entries ++ 125 :: rest))) = resume frames rest ∧
      resume (.object :: frames) (blanks gap ++ (Entries.bytes false entries ++ 125 :: rest)) =
        resume frames rest := by
  cases entries with
  | nil => exact ⟨proceed_empty gap, resume_closer gap⟩
  | cons before name beforeColon afterColon value after more =>
    have hvalue : skipNested .lax (.object :: frames) (blanks afterColon ++ (value.bytes ++
        (blanks after ++ (Entries.bytes false more ++ 125 :: rest)))) = resume frames rest := by
      rw [skipNested_value value _ afterColon (isDelimited_entries after more rest)]
      exact (proceed_entries more frames after rest).2
    simp only [Entries.bytes, comma, if_true, Bool.false_eq_true, if_false, List.nil_append,
      List.cons_append, List.append_assoc]
    constructor
    · rw [← blanks_append, ← hvalue]
      exact proceed_opening (skipBlank_blanks_cons (gap ++ before) (by decide) _) (by decide)
        (key_object (gap ++ before) name beforeColon _)
    · rw [← hvalue]
      exact resume_comma gap (key_object before name beforeColon _)

end

/-- The reader gets past a value of any depth, with blanks in front, and no further. -/
theorem skipValue_value (v : Value) (gap : List Blank) {rest : Bytes} (h : IsDelimited rest) :
    skipValue .lax (blanks gap ++ (v.bytes ++ rest)) = .ok rest := by
  rw [skipValue, skipNested_value v [] gap h]
  rfl

end Traversal.Json
