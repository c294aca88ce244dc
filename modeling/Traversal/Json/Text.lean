import Traversal.Json.Blank
import Traversal.Text.Utf8

/-!
# JSON strings

`readString` reads a string whose opening quote has been read and gives the text it stands for:
escapes are undone, a pair of surrogate escapes is one character, and the bytes must be UTF-8.
`skipString` only looks for the closing quote; it checks the shape of escapes and nothing else.
-/

namespace Traversal.Json

/-- The value of a hexadecimal digit. -/
def hexValue (b : UInt8) : Option Nat :=
  if 48 ≤ b && b ≤ 57 then some (b.toNat - 48)
  else if 97 ≤ b && b ≤ 102 then some (b.toNat - 87)
  else if 65 ≤ b && b ≤ 70 then some (b.toNat - 55)
  else none

/-- Reads four hexadecimal digits. -/
def hex4 : Bytes → Except Misread (Nat × Bytes)
  | a :: b :: c :: d :: rest =>
    match hexValue a, hexValue b, hexValue c, hexValue d with
    | some a, some b, some c, some d => .ok (((a * 16 + b) * 16 + c) * 16 + d, rest)
    | _, _, _, _ => stop .badEscape rest
  | _ => stop .stringUnfinished []

/-- Whether a code unit opens a surrogate pair. -/
def isLeading (n : Nat) : Bool :=
  0xD800 ≤ n && n ≤ 0xDBFF

/-- Whether a code unit closes a surrogate pair. -/
def isTrailing (n : Nat) : Bool :=
  0xDC00 ≤ n && n ≤ 0xDFFF

/-- The character that a surrogate pair stands for. -/
def paired (leading trailing : Nat) : Char :=
  Char.ofNat ((leading - 0xD800) * 0x400 + (trailing - 0xDC00) + 0x10000)

/-- Reads the letter that a surrogate escape needs next. -/
def surrogateMark (mark : UInt8) : Bytes → Except Misread Bytes
  | [] => stop .stringUnfinished []
  | b :: rest => if b = mark then .ok rest else stop .escapeUnfinished rest

/-- Reads a code-unit escape after its `u`, and the escape of the other half of a pair. -/
def unicodeEscape (rest : Bytes) : Except Misread (Char × Bytes) := do
  let (n, rest) ← hex4 rest
  if isTrailing n then stop .loneSurrogate rest
  else if isLeading n then
    let rest ← surrogateMark 92 rest
    let rest ← surrogateMark 117 rest
    let (m, rest) ← hex4 rest
    if isTrailing m then .ok (paired n m, rest) else stop .loneSurrogate rest
  else .ok (Char.ofNat n, rest)

/-- The character that a short escape stands for. -/
def shortEscape (b : UInt8) : Option Char :=
  match Char.ofNat b.toNat with
  | '"' => some '"'
  | '\\' => some '\\'
  | '/' => some '/'
  | 'b' => some '\x08'
  | 'f' => some '\x0c'
  | 'n' => some '\n'
  | 'r' => some '\r'
  | 't' => some '\t'
  | _ => none

/-- Reads an escape after its backslash. -/
def escape : Bytes → Except Misread (Char × Bytes)
  | [] => stop .stringUnfinished []
  | b :: rest =>
    if b = 117 then unicodeEscape rest
    else
      match shortEscape b with
      | some c => .ok (c, rest)
      | none => stop .badEscape rest

/-- Reads past an escape after its backslash; any code unit will do. -/
def skipEscape : Bytes → Except Misread Bytes
  | [] => stop .stringUnfinished []
  | b :: rest =>
    if b = 117 then (hex4 rest).map (·.2)
    else
      match shortEscape b with
      | some _ => .ok rest
      | none => stop .badEscape rest

theorem length_lt_of_hex4 {rest rest' : Bytes} {n : Nat} (h : hex4 rest = .ok (n, rest')) :
    rest'.length < rest.length := by
  unfold hex4 at h
  split at h
  · split at h
    · simp only [Except.ok.injEq, Prod.mk.injEq] at h
      simp only [← h.2, List.length_cons]; omega
    · simp [stop] at h
  · simp [stop] at h

theorem length_lt_of_surrogateMark {mark : UInt8} {rest rest' : Bytes}
    (h : surrogateMark mark rest = .ok rest') : rest'.length < rest.length := by
  unfold surrogateMark at h
  split at h
  · simp [stop] at h
  · split at h
    · simp only [Except.ok.injEq] at h; simp [h]
    · simp [stop] at h

theorem length_lt_of_unicodeEscape {rest rest' : Bytes} {c : Char}
    (h : unicodeEscape rest = .ok (c, rest')) : rest'.length < rest.length := by
  unfold unicodeEscape at h
  cases h1 : hex4 rest with
  | error e => simp [h1, bind, Except.bind] at h
  | ok r1 =>
    obtain ⟨n1, r1⟩ := r1
    have l1 := length_lt_of_hex4 h1
    simp only [h1, bind, Except.bind] at h
    split at h
    · simp [stop] at h
    · split at h
      · cases h2 : surrogateMark 92 r1 with
        | error e => simp [h2] at h
        | ok r2 =>
          have l2 := length_lt_of_surrogateMark h2
          simp only [h2] at h
          cases h3 : surrogateMark 117 r2 with
          | error e => simp [h3] at h
          | ok r3 =>
            have l3 := length_lt_of_surrogateMark h3
            simp only [h3] at h
            cases h4 : hex4 r3 with
            | error e => simp [h4] at h
            | ok r4 =>
              obtain ⟨n4, r4⟩ := r4
              have l4 := length_lt_of_hex4 h4
              simp only [h4] at h
              split at h
              · simp only [Except.ok.injEq, Prod.mk.injEq] at h
                rw [← h.2]; omega
              · simp [stop] at h
      · simp only [Except.ok.injEq, Prod.mk.injEq] at h
        rw [← h.2]; omega

theorem length_lt_of_escape {rest rest' : Bytes} {c : Char} (h : escape rest = .ok (c, rest')) :
    rest'.length < rest.length := by
  unfold escape at h
  split at h
  · simp [stop] at h
  · split at h
    · have := length_lt_of_unicodeEscape h
      simp only [List.length_cons]; omega
    · split at h
      · simp only [Except.ok.injEq, Prod.mk.injEq] at h; simp [h.2]
      · simp [stop] at h

theorem length_lt_of_skipEscape {rest rest' : Bytes} (h : skipEscape rest = .ok rest') :
    rest'.length < rest.length := by
  unfold skipEscape at h
  split at h
  · simp [stop] at h
  · next b tail =>
    split at h
    · cases h1 : hex4 tail with
      | error e => simp [h1, Except.map] at h
      | ok r =>
        obtain ⟨n, r⟩ := r
        have := length_lt_of_hex4 h1
        simp only [h1, Except.map, Except.ok.injEq] at h
        rw [← h, List.length_cons]; omega
    · split at h
      · simp only [Except.ok.injEq] at h; simp [h]
      · simp [stop] at h

/-- The bytes that a string body stands for, latest first, up to its closing quote. -/
def unquote (seen : Bytes) (rest : Bytes) : Except Misread (Bytes × Bytes) :=
  match rest with
  | [] => stop .stringUnfinished []
  | b :: rest =>
    if b = 34 then .ok (seen, rest)
    else if b = 92 then
      match h : escape rest with
      | .error misread => .error misread
      | .ok (c, rest') =>
        have := length_lt_of_escape h
        unquote ((String.utf8EncodeChar c).reverseAux seen) rest'
    else if b < 32 then stop .rawControl rest
    else unquote (b :: seen) rest
termination_by rest.length

/-- Reads a string after its opening quote. -/
def readString (rest : Bytes) : Except Misread (String × Bytes) := do
  let (seen, after) ← unquote [] rest
  match Utf8.decode seen.reverse with
  | some text => .ok (text, after)
  | none =>
    -- blame the first byte that is no part of a character, counted back from the closing quote
    let undecoded := seen.length - Utf8.validPrefix seen.reverse
    stop .badEncoding (rest.drop (rest.length - after.length - undecoded))

/-- Reads past a string after its opening quote. -/
def skipString (rest : Bytes) : Except Misread Bytes :=
  match rest with
  | [] => stop .stringUnfinished []
  | b :: rest =>
    if b = 34 then .ok rest
    else if b = 92 then
      match h : skipEscape rest with
      | .error misread => .error misread
      | .ok rest' =>
        have := length_lt_of_skipEscape h
        skipString rest'
    else if b < 32 then stop .rawControl (b :: rest)
    else skipString rest
termination_by rest.length

theorem length_lt_of_unquote {seen bytes rest rest' : Bytes}
    (h : unquote seen rest = .ok (bytes, rest')) : rest'.length < rest.length := by
  fun_induction unquote seen rest with
  | case1 => simp [stop] at h
  | case2 => simp only [Except.ok.injEq, Prod.mk.injEq] at h; simp [h.2]
  | case3 => simp at h
  | case4 _ _ _ _ _ _ _ ih => have := ih h; simp only [List.length_cons]; omega
  | case5 => simp [stop] at h
  | case6 _ _ _ _ _ _ ih => have := ih h; simp only [List.length_cons]; omega

theorem length_lt_of_readString {rest rest' : Bytes} {text : String}
    (h : readString rest = .ok (text, rest')) : rest'.length < rest.length := by
  unfold readString at h
  cases h1 : unquote [] rest with
  | error e => simp [h1, bind, Except.bind] at h
  | ok r =>
    obtain ⟨bytes, r⟩ := r
    have := length_lt_of_unquote h1
    simp only [h1, bind, Except.bind] at h
    split at h
    · simp only [Except.ok.injEq, Prod.mk.injEq] at h
      rw [← h.2]; omega
    · simp [stop] at h

theorem length_lt_of_skipString {rest rest' : Bytes} (h : skipString rest = .ok rest') :
    rest'.length < rest.length := by
  fun_induction skipString rest with
  | case1 => simp [stop] at h
  | case2 => simp only [Except.ok.injEq] at h; simp [h]
  | case3 => simp at h
  | case4 _ _ _ _ _ ih => have := ih h; simp only [List.length_cons]; omega
  | case5 => simp [stop] at h
  | case6 _ _ _ _ _ ih => have := ih h; simp only [List.length_cons]; omega

end Traversal.Json
