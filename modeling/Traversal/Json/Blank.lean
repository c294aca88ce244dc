import Traversal.Json.Fault

/-!
# Blanks, words and punctuation

The small readers that all others use.  Each takes the unread bytes and gives what is unread after
it.
-/

namespace Traversal.Json

/-- The byte of an ASCII character. -/
def byte (c : Char) : UInt8 :=
  c.toNat.toUInt8

/-- Whether a byte may stand between tokens. -/
def isBlank (b : UInt8) : Bool :=
  b = 32 || b = 10 || b = 9 || b = 13

/-- Whether a byte is a decimal digit. -/
def isDigit (b : UInt8) : Bool :=
  48 ≤ b && b ≤ 57

/-- The bytes after any blanks. -/
def skipBlank (rest : Bytes) : Bytes :=
  rest.dropWhile isBlank

/-- Reads the remaining letters of a word whose first letter is known. -/
def word : Bytes → Bytes → Except Misread Bytes
  | [], rest => .ok rest
  | _ :: _, [] => stop .valueUnfinished []
  | expected :: more, b :: rest => if b = expected then word more rest else stop .wordExpected rest

/-- Reads the colon between a key and its value. -/
def colon (rest : Bytes) : Except Misread Bytes :=
  match skipBlank rest with
  | 58 :: rest => .ok rest
  | [] => stopPast .objectUnfinished []
  | rest => stopPast .colonExpected rest

theorem length_dropWhile_le {α : Type} (p : α → Bool) (l : List α) :
    (l.dropWhile p).length ≤ l.length :=
  (List.dropWhile_sublist p).length_le

theorem length_skipBlank_le (rest : Bytes) : (skipBlank rest).length ≤ rest.length :=
  length_dropWhile_le _ _

theorem length_le_of_word {letters rest rest' : Bytes} (h : word letters rest = .ok rest') :
    rest'.length ≤ rest.length := by
  induction letters generalizing rest with
  | nil => simp only [word, Except.ok.injEq] at h; simp [h]
  | cons expected more ih =>
    cases rest with
    | nil => simp [word, stop] at h
    | cons b tail =>
      simp only [word] at h
      split at h
      · exact Nat.le_succ_of_le (ih h)
      · simp [stop] at h

theorem length_lt_of_colon {rest rest' : Bytes} (h : colon rest = .ok rest') :
    rest'.length < rest.length := by
  unfold colon at h
  have hle := length_skipBlank_le rest
  split at h
  · next heq =>
    simp only [Except.ok.injEq] at h
    subst h
    rw [heq, List.length_cons] at hle
    omega
  · simp [stopPast] at h
  · simp [stopPast] at h

end Traversal.Json
