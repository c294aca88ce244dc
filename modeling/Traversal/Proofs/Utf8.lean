import Mathlib
import Traversal.Text.Utf8

/-!
# UTF-8 is read back

`Utf8.scalar` undoes the encoding of a character: whatever bytes follow, it gives the character and leaves
them unread (`scalar_encode_append`).  The four lengths of an encoding are dealt with one by one.  What is
true of one character extends to whole texts by induction (`decode_ofChars`).
-/

namespace Traversal.Utf8

open Bytes

/-! ### Encodings by length -/

/-- A character of ASCII is one byte. -/
lemma encode_of_lt_128 {c : Char} (h : c.toNat < 128) :
    String.utf8EncodeChar c = [UInt8.ofNat c.toNat] := by
  rw [String.utf8EncodeChar]
  exact if_pos (show c.toNat ≤ 127 by omega)

/-- A character below 2048 that is not ASCII is two bytes. -/
lemma encode_of_lt_2048 {c : Char} (h : 128 ≤ c.toNat) (h' : c.toNat < 2048) :
    String.utf8EncodeChar c =
      [UInt8.ofNat (c.toNat / 64 % 32 + 192), UInt8.ofNat (c.toNat % 64 + 128)] := by
  rw [String.utf8EncodeChar]
  refine (if_neg (show ¬ c.toNat ≤ 127 by omega)).trans ?_
  exact if_pos (show c.toNat ≤ 2047 by omega)

/-- Any other character of the basic plane is three bytes. -/
lemma encode_of_lt_65536 {c : Char} (h : 2048 ≤ c.toNat) (h' : c.toNat < 65536) :
    String.utf8EncodeChar c =
      [UInt8.ofNat (c.toNat / 4096 % 16 + 224), UInt8.ofNat (c.toNat / 64 % 64 + 128),
        UInt8.ofNat (c.toNat % 64 + 128)] := by
  rw [String.utf8EncodeChar]
  refine (if_neg (show ¬ c.toNat ≤ 127 by omega)).trans ?_
  refine (if_neg (show ¬ c.toNat ≤ 2047 by omega)).trans ?_
  exact if_pos (show c.toNat ≤ 65535 by omega)

/-- A character beyond the basic plane is four bytes. -/
lemma encode_of_ge_65536 {c : Char} (h : 65536 ≤ c.toNat) :
    String.utf8EncodeChar c =
      [UInt8.ofNat (c.toNat / 262144 % 8 + 240), UInt8.ofNat (c.toNat / 4096 % 64 + 128),
        UInt8.ofNat (c.toNat / 64 % 64 + 128), UInt8.ofNat (c.toNat % 64 + 128)] := by
  rw [String.utf8EncodeChar]
  refine (if_neg (show ¬ c.toNat ≤ 127 by omega)).trans ?_
  refine (if_neg (show ¬ c.toNat ≤ 2047 by omega)).trans ?_
  exact if_neg (show ¬ c.toNat ≤ 65535 by omega)

/-- A character is a scalar value. -/
lemma toNat_valid (c : Char) : c.toNat < 55296 ∨ 57343 < c.toNat ∧ c.toNat < 1114112 :=
  c.valid

/-- The number of a byte that was made from a small number. -/
lemma toNat_ofNat {n : Nat} (h : n < 256) : (UInt8.ofNat n).toNat = n := by
  rw [UInt8.toNat_ofNat']
  exact Nat.mod_eq_of_lt h

/-- A byte made from six bits and a mark continues an encoding, and its payload is the six bits. -/
lemma tail_of_lt {n : Nat} (h : n < 64) :
    isTail (UInt8.ofNat (n + 128)) = true ∧ tailBits (UInt8.ofNat (n + 128)) = n := by
  have hbyte : (UInt8.ofNat (n + 128)).toNat = n + 128 := toNat_ofNat (by omega)
  constructor
  · simp only [isTail, Bool.and_eq_true, decide_eq_true_eq, UInt8.le_iff_toNat_le, hbyte]
    exact ⟨by simp, by simp; omega⟩
  · rw [tailBits, hbyte]
    omega

/-! ### Reading a character of each length -/

/-- A byte within a range. -/
lemma within_of_le {a low high : UInt8} (hlow : low.toNat ≤ a.toNat) (hhigh : a.toNat ≤ high.toNat) :
    (low ≤ a && a ≤ high) = true := by
  simp only [Bool.and_eq_true, decide_eq_true_eq, UInt8.le_iff_toNat_le]
  exact ⟨hlow, hhigh⟩

/-- A byte beyond a range. -/
lemma not_within_of_lt {a high : UInt8} (low : UInt8) (h : high.toNat < a.toNat) :
    (low ≤ a && a ≤ high) = false := by
  simp only [Bool.and_eq_false_iff, decide_eq_false_iff_not, UInt8.le_iff_toNat_le]
  exact .inr (Nat.not_le.mpr h)

/-- A byte beyond ASCII. -/
lemma not_ascii_of_le {a : UInt8} (h : 128 ≤ a.toNat) : ¬ a < 0x80 := by
  rw [UInt8.lt_iff_toNat_lt]
  exact Nat.not_lt.mpr h

section Lengths

variable {a b c d : UInt8} (rest : Bytes)

/-- A byte below 128 is a character. -/
lemma scalar_of_one (ha : a.toNat < 128) : scalar (a :: rest) = some (Char.ofNat a.toNat, rest) := by
  have hascii : a < 0x80 := UInt8.lt_iff_toNat_lt.mpr ha
  unfold scalar
  simp [hascii]

/-- A character of two bytes. -/
lemma scalar_of_two (hle : 0xC2 ≤ a.toNat) (hge : a.toNat ≤ 0xDF) (hb : isTail b = true) :
    scalar (a :: b :: rest) = some (Char.ofNat (a.toNat % 32 * 64 + tailBits b), rest) := by
  have hascii : ¬ a < 0x80 := not_ascii_of_le (by omega)
  have htwo : (0xC2 ≤ a && a ≤ 0xDF) = true := within_of_le hle hge
  unfold scalar
  simp [hascii, htwo, hb]

/-- A character of three bytes.  Its second byte shows that two would not do, and that it is no half of a
surrogate pair. -/
lemma scalar_of_three (hle : 0xE0 ≤ a.toNat) (hge : a.toNat ≤ 0xEF) (hb : isTail b = true)
    (hc : isTail c = true) (hlong : a.toNat = 0xE0 → 0xA0 ≤ b.toNat)
    (hpair : a.toNat = 0xED → b.toNat ≤ 0x9F) :
    scalar (a :: b :: c :: rest) =
      some (Char.ofNat ((a.toNat % 16 * 64 + tailBits b) * 64 + tailBits c), rest) := by
  have hascii : ¬ a < 0x80 := not_ascii_of_le (by omega)
  have htwo : (0xC2 ≤ a && a ≤ 0xDF) = false := not_within_of_lt _ (Nat.lt_of_lt_of_le (by decide) hle)
  have hthree : (0xE0 ≤ a && a ≤ 0xEF) = true := within_of_le hle hge
  have hsecond : (isTail b && isTail c && (a != 0xE0 || 0xA0 ≤ b) && (a != 0xED || b ≤ 0x9F)) = true := by
    simp only [hb, hc, Bool.true_and, Bool.and_eq_true, Bool.or_eq_true, bne_iff_ne, ne_eq,
      decide_eq_true_eq, UInt8.le_iff_toNat_le, ← UInt8.toNat_inj, ← imp_iff_not_or]
    exact ⟨hlong, hpair⟩
  unfold scalar
  simp only [hascii, htwo, hthree, hsecond, if_true, if_false, Bool.false_eq_true]

/-- A character of four bytes.  Its second byte shows that three would not do, and that it is not too
large. -/
lemma scalar_of_four (hle : 0xF0 ≤ a.toNat) (hge : a.toNat ≤ 0xF4) (hb : isTail b = true)
    (hc : isTail c = true) (hd : isTail d = true) (hlong : a.toNat = 0xF0 → 0x90 ≤ b.toNat)
    (hlarge : a.toNat = 0xF4 → b.toNat ≤ 0x8F) :
    scalar (a :: b :: c :: d :: rest) =
      some (Char.ofNat (((a.toNat % 8 * 64 + tailBits b) * 64 + tailBits c) * 64 + tailBits d), rest) := by
  have hascii : ¬ a < 0x80 := not_ascii_of_le (by omega)
  have htwo : (0xC2 ≤ a && a ≤ 0xDF) = false := not_within_of_lt _ (Nat.lt_of_lt_of_le (by decide) hle)
  have hthree : (0xE0 ≤ a && a ≤ 0xEF) = false := not_within_of_lt _ (Nat.lt_of_lt_of_le (by decide) hle)
  have hfour : (0xF0 ≤ a && a ≤ 0xF4) = true := within_of_le hle hge
  have hsecond : (isTail b && isTail c && isTail d && (a != 0xF0 || 0x90 ≤ b) &&
      (a != 0xF4 || b ≤ 0x8F)) = true := by
    simp only [hb, hc, hd, Bool.true_and, Bool.and_eq_true, Bool.or_eq_true, bne_iff_ne, ne_eq,
      decide_eq_true_eq, UInt8.le_iff_toNat_le, ← UInt8.toNat_inj, ← imp_iff_not_or]
    exact ⟨hlong, hlarge⟩
  unfold scalar
  simp only [hascii, htwo, hthree, hfour, hsecond, if_true, if_false, Bool.false_eq_true]

end Lengths

/-! ### Reading back -/

/-- A character is read back from its encoding, and what follows is left. -/
theorem scalar_encode_append (c : Char) (rest : Bytes) :
    scalar (String.utf8EncodeChar c ++ rest) = some (c, rest) := by
  have hvalid := toNat_valid c
  have hread : ∀ n, n = c.toNat → some (Char.ofNat n, rest) = some (c, rest) :=
    fun n hn => by rw [hn, Char.ofNat_toNat]
  have htail : ∀ n, n < 64 → isTail (UInt8.ofNat (n + 128)) = true := fun n hn => (tail_of_lt hn).1
  have hbits : ∀ n, n < 64 → tailBits (UInt8.ofNat (n + 128)) = n := fun n hn => (tail_of_lt hn).2
  by_cases h1 : c.toNat < 128
  · have hfirst : (UInt8.ofNat c.toNat).toNat = c.toNat := toNat_ofNat (by omega)
    rw [encode_of_lt_128 h1]
    exact (scalar_of_one rest (by omega)).trans (hread _ hfirst)
  by_cases h2 : c.toNat < 2048
  · have hfirst : (UInt8.ofNat (c.toNat / 64 % 32 + 192)).toNat = c.toNat / 64 % 32 + 192 :=
      toNat_ofNat (by omega)
    rw [encode_of_lt_2048 (by omega) h2]
    refine (scalar_of_two rest (by omega) (by omega) (htail _ (by omega))).trans (hread _ ?_)
    rw [hfirst, hbits _ (by omega)]
    omega
  have hsecond : ∀ n, (UInt8.ofNat (n % 64 + 128)).toNat = n % 64 + 128 := fun n => toNat_ofNat (by omega)
  by_cases h3 : c.toNat < 65536
  · have hfirst : (UInt8.ofNat (c.toNat / 4096 % 16 + 224)).toNat = c.toNat / 4096 % 16 + 224 :=
      toNat_ofNat (by omega)
    rw [encode_of_lt_65536 (by omega) h3]
    refine (scalar_of_three rest (by omega) (by omega) (htail _ (by omega)) (htail _ (by omega)) ?_ ?_).trans
      (hread _ ?_)
    · rw [hfirst, hsecond]
      omega
    · rw [hfirst, hsecond]
      omega
    · rw [hfirst, hbits _ (by omega), hbits _ (by omega)]
      omega
  · have hfirst : (UInt8.ofNat (c.toNat / 262144 % 8 + 240)).toNat = c.toNat / 262144 % 8 + 240 :=
      toNat_ofNat (by omega)
    rw [encode_of_ge_65536 (by omega)]
    refine (scalar_of_four rest (by omega) (by omega) (htail _ (by omega)) (htail _ (by omega))
      (htail _ (by omega)) ?_ ?_).trans (hread _ ?_)
    · rw [hfirst, hsecond]
      omega
    · rw [hfirst, hsecond]
      omega
    · rw [hfirst, hbits _ (by omega), hbits _ (by omega), hbits _ (by omega)]
      omega

/-- All characters of a text are read back from its encoding. -/
lemma scan_ofChars (seen chars : List Char) : scan seen (ofChars chars) = (chars.reverse ++ seen, []) := by
  induction chars generalizing seen with
  | nil =>
    rw [scan]
    rfl
  | cons c chars ih =>
    have hfirst := scalar_encode_append c (ofChars chars)
    rw [ofChars_cons, scan]
    split
    · next c' rest heq =>
      rw [hfirst] at heq
      cases heq
      rw [ih, List.reverse_cons, List.append_assoc, List.singleton_append]
    · next heq =>
      rw [hfirst] at heq
      cases heq

/-- A text is read back from its encoding. -/
theorem decode_ofChars (chars : List Char) : decode (ofChars chars) = some (String.ofList chars) := by
  rw [decode, scan_ofChars, List.append_nil]
  simp

/-! ### Bytes of a text -/

/-- A byte of a character is the character itself, or it is no ASCII. -/
lemma byte_of_mem_encode {c : Char} {b : UInt8} (hb : b ∈ String.utf8EncodeChar c) :
    b.toNat = c.toNat ∨ 128 ≤ b.toNat := by
  have hmark : ∀ n, 128 ≤ n → n < 256 → b = UInt8.ofNat n → 128 ≤ b.toNat := by
    rintro n hle hlt rfl
    rw [toNat_ofNat hlt]
    exact hle
  by_cases h1 : c.toNat < 128
  · rw [encode_of_lt_128 h1, List.mem_singleton] at hb
    rw [hb]
    exact .inl (toNat_ofNat (by omega))
  by_cases h2 : c.toNat < 2048
  · rw [encode_of_lt_2048 (by omega) h2] at hb
    simp only [List.mem_cons, List.not_mem_nil, or_false] at hb
    rcases hb with hb | hb <;> exact .inr (hmark _ (by omega) (by omega) hb)
  by_cases h3 : c.toNat < 65536
  · rw [encode_of_lt_65536 (by omega) h3] at hb
    simp only [List.mem_cons, List.not_mem_nil, or_false] at hb
    rcases hb with hb | hb | hb <;> exact .inr (hmark _ (by omega) (by omega) hb)
  · rw [encode_of_ge_65536 (by omega)] at hb
    simp only [List.mem_cons, List.not_mem_nil, or_false] at hb
    rcases hb with hb | hb | hb | hb <;> exact .inr (hmark _ (by omega) (by omega) hb)

/-- A text without control characters has no control bytes. -/
lemma le_of_mem_ofChars {chars : List Char} (h : ∀ c ∈ chars, 32 ≤ c.toNat) {b : UInt8}
    (hb : b ∈ ofChars chars) : 32 ≤ b.toNat := by
  obtain ⟨c, hc, hmem⟩ := List.mem_flatMap.mp hb
  have hle := h c hc
  rcases byte_of_mem_encode hmem with heq | hlarge
  · omega
  · omega

end Traversal.Utf8
