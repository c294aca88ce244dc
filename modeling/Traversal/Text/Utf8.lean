import Traversal.Bytes

/-!
# Reading UTF-8

`Utf8.scalar` reads one character from the front of a byte string and accepts only the shortest
encoding of a scalar value.  `Utf8.decode` reads a whole byte string; `Utf8.validPrefix` says how
many bytes precede the first one that no encoding explains.
-/

namespace Traversal.Utf8

/-- Whether a byte continues a multi-byte encoding. -/
def isTail (b : UInt8) : Bool :=
  0x80 ≤ b && b ≤ 0xBF

/-- The payload bits of a continuation byte. -/
def tailBits (b : UInt8) : Nat :=
  b.toNat % 64

/-- The first character of a byte string and the bytes after it. -/
def scalar : Bytes → Option (Char × Bytes)
  | [] => none
  | a :: rest =>
    if a < 0x80 then some (Char.ofNat a.toNat, rest)
    else if 0xC2 ≤ a && a ≤ 0xDF then
      match rest with
      | b :: rest =>
        if isTail b then some (Char.ofNat ((a.toNat % 32) * 64 + tailBits b), rest) else none
      | _ => none
    else if 0xE0 ≤ a && a ≤ 0xEF then
      match rest with
      | b :: c :: rest =>
        if isTail b && isTail c && (a != 0xE0 || 0xA0 ≤ b) && (a != 0xED || b ≤ 0x9F) then
          some (Char.ofNat (((a.toNat % 16) * 64 + tailBits b) * 64 + tailBits c), rest)
        else none
      | _ => none
    else if 0xF0 ≤ a && a ≤ 0xF4 then
      match rest with
      | b :: c :: d :: rest =>
        if isTail b && isTail c && isTail d && (a != 0xF0 || 0x90 ≤ b) && (a != 0xF4 || b ≤ 0x8F) then
          some (Char.ofNat ((((a.toNat % 8) * 64 + tailBits b) * 64 + tailBits c) * 64 + tailBits d), rest)
        else none
      | _ => none
    else none

/-- Reading a character consumes at least one byte. -/
theorem length_lt_of_scalar {bytes rest : Bytes} {c : Char} (h : scalar bytes = some (c, rest)) :
    rest.length < bytes.length := by
  unfold scalar at h
  split at h
  · simp at h
  · split at h
    · simp only [Option.some.injEq, Prod.mk.injEq] at h
      simp [← h.2]
    · split at h
      · split at h
        · split at h
          · simp only [Option.some.injEq, Prod.mk.injEq] at h
            simp only [← h.2, List.length_cons]; omega
          · simp at h
        · simp at h
      · split at h
        · split at h
          · split at h
            · simp only [Option.some.injEq, Prod.mk.injEq] at h
              simp only [← h.2, List.length_cons]; omega
            · simp at h
          · simp at h
        · split at h
          · split at h
            · split at h
              · simp only [Option.some.injEq, Prod.mk.injEq] at h
                simp only [← h.2, List.length_cons]; omega
              · simp at h
            · simp at h
          · simp at h

/-- The characters at the front of a byte string, latest first, and what follows them unread. -/
def scan (seen : List Char) (bytes : Bytes) : List Char × Bytes :=
  match h : scalar bytes with
  | some (c, rest) =>
    have := length_lt_of_scalar h
    scan (c :: seen) rest
  | none => (seen, bytes)
termination_by bytes.length

/-- The text that a byte string encodes, if it is UTF-8 throughout. -/
def decode (bytes : Bytes) : Option String :=
  match scan [] bytes with
  | (seen, []) => some (String.ofList seen.reverse)
  | _ => none

/-- How many bytes precede the first one that is no part of a character. -/
def validPrefix (bytes : Bytes) : Nat :=
  bytes.length - (scan [] bytes).2.length

end Traversal.Utf8
