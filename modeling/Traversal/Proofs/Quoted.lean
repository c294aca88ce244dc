import Mathlib
import Traversal.Json.Quoted
import Traversal.Json.Text
import Traversal.Proofs.Utf8

/-!
# JSON strings are read back

A string that `Json.quoted` writes is read back by `Json.readString`, whatever text it is and whatever
follows it (`readString_quoted`).  The body of a string is dealt with character by character: each one is
written as a short escape, as a numeric escape or as it stands, and `unquote_escaped` says that reading
undoes all three.

`le_of_mem_quoted` says that what is written has no control byte, so that no byte of it ends a line.
-/

namespace Traversal.Json

open Bytes

/-! ### Steps of a reader of strings -/

section Steps

variable (seen rest : Bytes)

/-- The closing quote ends a string. -/
lemma unquote_quote : unquote seen (34 :: rest) = .ok (seen, rest) := by
  rw [unquote, if_pos rfl]

/-- A byte that is neither a quote nor a backslash nor a control byte stands for itself. -/
lemma unquote_plain {b : UInt8} (hquote : b ≠ 34) (hslash : b ≠ 92) (hcontrol : 32 ≤ b.toNat) :
    unquote seen (b :: rest) = unquote (b :: seen) rest := by
  have hraw : ¬ b < 32 := by
    rw [UInt8.lt_iff_toNat_lt]
    exact Nat.not_lt.mpr hcontrol
  rw [unquote, if_neg hquote, if_neg hslash, if_neg hraw]

/-- So do several such bytes. -/
lemma unquote_plain_append {bytes : Bytes} (h : ∀ b ∈ bytes, b ≠ 34 ∧ b ≠ 92 ∧ 32 ≤ b.toNat) :
    unquote seen (bytes ++ rest) = unquote (bytes.reverse ++ seen) rest := by
  induction bytes generalizing seen with
  | nil => rfl
  | cons b bytes ih =>
    obtain ⟨hquote, hslash, hcontrol⟩ := h b List.mem_cons_self
    rw [List.cons_append, unquote_plain _ _ hquote hslash hcontrol,
      ih _ fun b' hb' => h b' (List.mem_cons_of_mem _ hb'), List.reverse_cons, List.append_assoc,
      List.singleton_append]

/-- An escape stands for its character. -/
lemma unquote_escape {c : Char} {after : Bytes} (h : escape rest = .ok (c, after)) :
    unquote seen (92 :: rest) = unquote ((String.utf8EncodeChar c).reverse ++ seen) after := by
  rw [unquote, if_neg (by decide), if_pos rfl]
  split
  · next heq =>
    rw [h] at heq
    cases heq
  · next heq =>
    rw [h] at heq
    cases heq
    rw [List.reverseAux_eq]

end Steps

/-- A character that is neither a quote nor a backslash nor a control character is made of such bytes. -/
lemma plain_of_mem_encode {c : Char} (hquote : c ≠ '"') (hslash : c ≠ '\\') (hcontrol : 32 ≤ c.toNat)
    {b : UInt8} (hb : b ∈ String.utf8EncodeChar c) : b ≠ 34 ∧ b ≠ 92 ∧ 32 ≤ b.toNat := by
  have hne : ∀ d : Char, c ≠ d → c.toNat ≠ d.toNat := fun d hd heq => hd (Char.toNat_inj.mp heq)
  have hquote' := hne _ hquote
  have hslash' := hne _ hslash
  simp only [ne_eq, ← UInt8.toNat_inj]
  rcases Utf8.byte_of_mem_encode hb with heq | hlarge
  · rw [heq]
    exact ⟨hquote', hslash', hcontrol⟩
  · exact ⟨fun h => by simp [h] at hlarge, fun h => by simp [h] at hlarge, by omega⟩

/-! ### Escapes -/

/-- The value of a digit that was written. -/
lemma hexValue_hexDigit {n : Nat} (h : n < 16) :
    String.utf8EncodeChar (hexDigit n) = [UInt8.ofNat (hexDigit n).toNat] ∧
      hexValue (UInt8.ofNat (hexDigit n).toNat) = some n := by
  have hall : ∀ n : Fin 16, (hexDigit n).toNat < 128 ∧
      hexValue (UInt8.ofNat (hexDigit n).toNat) = some n.val := by decide
  obtain ⟨hascii, hvalue⟩ := hall ⟨n, h⟩
  exact ⟨Utf8.encode_of_lt_128 hascii, hvalue⟩

/-- A numeric escape of a control character is read back. -/
lemma escape_numeric {c : Char} (h : c.toNat < 32) (rest : Bytes) :
    escape (ofChars ['u', '0', '0', hexDigit (c.toNat / 16), hexDigit (c.toNat % 16)] ++ rest) =
      .ok (c, rest) := by
  obtain ⟨hhigh, hhigh'⟩ := hexValue_hexDigit (show c.toNat / 16 < 16 by omega)
  obtain ⟨hlow, hlow'⟩ := hexValue_hexDigit (show c.toNat % 16 < 16 by omega)
  have hzero : hexValue 48 = some 0 := by decide
  have hvalue : ((0 * 16 + 0) * 16 + c.toNat / 16) * 16 + c.toNat % 16 = c.toNat := by omega
  have htrailing : isTrailing c.toNat = false := by
    simp only [isTrailing, Bool.and_eq_false_iff, decide_eq_false_iff_not]
    omega
  have hleading : isLeading c.toNat = false := by
    simp only [isLeading, Bool.and_eq_false_iff, decide_eq_false_iff_not]
    omega
  have hbytes : ofChars ['u', '0', '0', hexDigit (c.toNat / 16), hexDigit (c.toNat % 16)] =
      [117, 48, 48, UInt8.ofNat (hexDigit (c.toNat / 16)).toNat,
        UInt8.ofNat (hexDigit (c.toNat % 16)).toNat] := by
    rw [show ofChars ['u', '0', '0', hexDigit (c.toNat / 16), hexDigit (c.toNat % 16)] =
      ofChars ['u', '0', '0'] ++ (String.utf8EncodeChar (hexDigit (c.toNat / 16)) ++
        (String.utf8EncodeChar (hexDigit (c.toNat % 16)) ++ [])) from rfl, hhigh, hlow]
    rfl
  rw [hbytes]
  simp only [List.cons_append, List.nil_append, escape, if_true, unicodeEscape, hex4, hzero, hhigh',
    hlow', hvalue, bind, Except.bind, htrailing, hleading, Bool.false_eq_true, if_false, Char.ofNat_toNat]

/-- The characters that have a short escape. -/
def shorts : List Char :=
  ['"', '\\', '\x08', '\t', '\n', '\x0c', '\r']

/-- A character is written as a short escape, as a numeric escape, or as it stands. -/
lemma escaped_cases (c : Char) :
    c ∈ shorts ∧ (∃ d, escaped c = ['\\', d] ∧ 32 ≤ d.toNat) ∨
      c.toNat < 32 ∧ escaped c =
        ['\\', 'u', '0', '0', hexDigit (c.toNat / 16), hexDigit (c.toNat % 16)] ∨
      c ∉ shorts ∧ 32 ≤ c.toNat ∧ escaped c = [c] := by
  by_cases hshort : c ∈ shorts
  · left
    refine ⟨hshort, ?_⟩
    simp only [shorts, List.mem_cons, List.not_mem_nil, or_false] at hshort
    rcases hshort with rfl | rfl | rfl | rfl | rfl | rfl | rfl <;> exact ⟨_, rfl, by decide⟩
  · right
    have hnot := hshort
    simp only [shorts, List.mem_cons, List.not_mem_nil, or_false, not_or] at hnot
    by_cases hcontrol : c.toNat < 32
    · exact .inl ⟨hcontrol, by simp [escaped, hnot, hcontrol]⟩
    · exact .inr ⟨hshort, by omega, by simp [escaped, hnot, hcontrol]⟩

/-- A character is read back from the way it is written inside a string. -/
theorem unquote_escaped (seen : Bytes) (c : Char) (rest : Bytes) :
    unquote seen (ofChars (escaped c) ++ rest) =
      unquote ((String.utf8EncodeChar c).reverse ++ seen) rest := by
  rcases escaped_cases c with ⟨hshort, -⟩ | ⟨hcontrol, hescaped⟩ | ⟨hshort, hle, hescaped⟩
  · simp only [shorts, List.mem_cons, List.not_mem_nil, or_false] at hshort
    rcases hshort with rfl | rfl | rfl | rfl | rfl | rfl | rfl <;>
      exact unquote_escape seen _ (show escape _ = .ok (_, rest) from rfl)
  · rw [hescaped]
    exact unquote_escape seen _ (escape_numeric hcontrol rest)
  · rw [hescaped, show ofChars [c] = String.utf8EncodeChar c by simp [ofChars]]
    simp only [shorts, List.mem_cons, List.not_mem_nil, or_false, not_or] at hshort
    exact unquote_plain_append seen rest fun b hb => plain_of_mem_encode hshort.1 hshort.2.1 hle hb

/-! ### Whole strings -/

/-- The body of a string is read back up to the closing quote. -/
lemma unquote_body (seen : Bytes) (chars : List Char) (rest : Bytes) :
    unquote seen (ofChars (chars.flatMap escaped) ++ 34 :: rest) =
      .ok ((ofChars chars).reverse ++ seen, rest) := by
  induction chars generalizing seen with
  | nil => exact unquote_quote seen rest
  | cons c chars ih =>
    rw [List.flatMap_cons, ofChars_append, List.append_assoc, unquote_escaped, ih, ofChars_cons,
      List.reverse_append, List.append_assoc]

/-- A string begins with a quote, which its body and another quote follow. -/
lemma ofChars_quoted (chars : List Char) (rest : Bytes) :
    ofChars (quoted chars) ++ rest = 34 :: (ofChars (chars.flatMap escaped) ++ 34 :: rest) := by
  rw [quoted, List.cons_append, ofChars_cons, ofChars_append, List.append_assoc, List.append_assoc]
  rfl

/-- A text is read back from the string that it was written as, and what follows is left. -/
theorem readString_quoted (text : String) (rest : Bytes) :
    readString (ofChars (text.toList.flatMap escaped) ++ 34 :: rest) = .ok (text, rest) := by
  have hbody := unquote_body [] text.toList rest
  have hdecode := Utf8.decode_ofChars text.toList
  rw [String.ofList_toList] at hdecode
  simp only [readString, hbody, bind, Except.bind, List.append_nil, List.reverse_reverse, hdecode]

/-! ### No control bytes -/

/-- What stands for a character inside a string are no control characters. -/
lemma le_of_mem_escaped {c d : Char} (hd : d ∈ escaped c) : 32 ≤ d.toNat := by
  have hdigit : ∀ n : Fin 16, 32 ≤ (hexDigit n).toNat := by decide
  rcases escaped_cases c with ⟨-, e, hescaped, hle⟩ | ⟨hcontrol, hescaped⟩ | ⟨-, hle, hescaped⟩
  · rw [hescaped] at hd
    simp only [List.mem_cons, List.not_mem_nil, or_false] at hd
    rcases hd with rfl | rfl
    · decide
    · exact hle
  · have hhigh := hdigit ⟨c.toNat / 16, by omega⟩
    have hlow := hdigit ⟨c.toNat % 16, by omega⟩
    rw [hescaped] at hd
    simp only [List.mem_cons, List.not_mem_nil, or_false] at hd
    rcases hd with rfl | rfl | rfl | rfl | rfl | rfl
    · decide
    · decide
    · decide
    · decide
    · exact hhigh
    · exact hlow
  · rw [hescaped, List.mem_singleton] at hd
    exact hd ▸ hle

/-- A string is written without control characters. -/
theorem le_of_mem_quoted {chars : List Char} {d : Char} (hd : d ∈ quoted chars) : 32 ≤ d.toNat := by
  simp only [quoted, List.cons_append, List.mem_cons, List.mem_append, List.mem_flatMap,
    List.not_mem_nil, or_false] at hd
  rcases hd with rfl | ⟨c, -, hescaped⟩ | rfl
  · decide
  · exact le_of_mem_escaped hescaped
  · decide

end Traversal.Json
