import Mathlib
import Traversal.Record.Codec

/-!
# Lines of a byte string

A byte string falls into the lines that a newline ends and a remnant without a newline.
`Bytes.lines` and `Bytes.remnant` are these two parts, read off in one pass over the whole string; they
are the yardstick for everything that reads a stream piece by piece.

The basic law is `flatMap_encode_lines_append_remnant`: writing the lines as records and the remnant
behind them gives the byte string back.  Together with `lines_flatMap_encode_append` it says that the
lines are the only way to cut a byte string at its newlines, and `lines_append` says how the cut
extends when more bytes follow.
-/

namespace Traversal.Bytes

open Record

/-- A byte string cut at its newlines: the lines, and what follows the last newline. -/
def cut : Bytes → List Bytes × Bytes
  | [] => ([], [])
  | b :: bytes =>
    if b = newline then ([] :: (cut bytes).1, (cut bytes).2)
    else
      match (cut bytes).1 with
      | [] => ([], b :: (cut bytes).2)
      | line :: lines => ((b :: line) :: lines, (cut bytes).2)

/-- The lines that a newline ends, without their newlines. -/
def lines (bytes : Bytes) : List Bytes :=
  (cut bytes).1

/-- What follows the last newline. -/
def remnant (bytes : Bytes) : Bytes :=
  (cut bytes).2

/-! ### The cut and how to put it together again -/

/-- A byte string without a newline has no line, and is all remnant. -/
lemma cut_of_not_mem {bytes : Bytes} (h : newline ∉ bytes) : cut bytes = ([], bytes) := by
  induction bytes with
  | nil => rfl
  | cons b bytes ih =>
    rw [List.mem_cons, not_or] at h
    simp [cut, ih h.2, Ne.symm h.1]

/-- The first newline ends the first line. -/
lemma cut_encode_append {line : Bytes} (h : newline ∉ line) (bytes : Bytes) :
    cut (encode line ++ bytes) = (line :: (cut bytes).1, (cut bytes).2) := by
  induction line with
  | nil => simp [encode, cut]
  | cons b line ih =>
    rw [List.mem_cons, not_or] at h
    have hcut : cut (b :: (encode line ++ bytes)) =
        ((b :: line) :: (cut bytes).1, (cut bytes).2) := by
      simp [cut, ih h.2, Ne.symm h.1]
    simpa [encode] using hcut

/-- No line contains a newline. -/
lemma newline_not_mem_of_mem_lines {bytes line : Bytes} (h : line ∈ lines bytes) :
    newline ∉ line := by
  induction bytes generalizing line with
  | nil => simp [lines, cut] at h
  | cons b bytes ih =>
    unfold lines at ih h
    unfold cut at h
    by_cases hb : b = newline
    · rw [if_pos hb] at h
      rcases List.mem_cons.mp h with rfl | h
      · simp
      · exact ih h
    · rw [if_neg hb] at h
      cases hlines : (cut bytes).1 with
      | nil => simp [hlines] at h
      | cons first rest =>
        rw [hlines] at h ih
        rcases List.mem_cons.mp h with rfl | h
        · have hfirst : newline ∉ first := ih List.mem_cons_self
          simp [hfirst, Ne.symm hb]
        · exact ih (List.mem_cons_of_mem _ h)

/-- The remnant contains no newline. -/
lemma newline_not_mem_remnant (bytes : Bytes) : newline ∉ remnant bytes := by
  induction bytes with
  | nil => simp [remnant, cut]
  | cons b bytes ih =>
    unfold remnant at ih ⊢
    unfold cut
    by_cases hb : b = newline
    · rw [if_pos hb]
      exact ih
    · rw [if_neg hb]
      cases (cut bytes).1 with
      | nil => simpa [Ne.symm hb] using ih
      | cons first rest => exact ih

/-- Writing the lines as records, and the remnant behind them, gives the byte string back. -/
theorem flatMap_encode_lines_append_remnant (bytes : Bytes) :
    (lines bytes).flatMap encode ++ remnant bytes = bytes := by
  induction bytes with
  | nil => rfl
  | cons b bytes ih =>
    unfold lines remnant at ih ⊢
    unfold cut
    by_cases hb : b = newline
    · rw [if_pos hb]
      simp [encode, hb, ih]
    · rw [if_neg hb]
      cases hlines : (cut bytes).1 with
      | nil =>
        rw [hlines] at ih
        simpa using ih
      | cons first rest =>
        rw [hlines] at ih
        simpa [encode] using ih

/-- Records that were written come out as lines again. -/
lemma cut_flatMap_encode_append {records : List Bytes}
    (h : ∀ record ∈ records, newline ∉ record) (bytes : Bytes) :
    cut (records.flatMap encode ++ bytes) = (records ++ lines bytes, remnant bytes) := by
  induction records with
  | nil => rfl
  | cons record records ih =>
    have hrest := ih fun r hr => h r (List.mem_cons_of_mem _ hr)
    rw [List.flatMap_cons, List.append_assoc, cut_encode_append (h record List.mem_cons_self), hrest]
    rfl

/-- The lines behind records that were written. -/
theorem lines_flatMap_encode_append {records : List Bytes}
    (h : ∀ record ∈ records, newline ∉ record) (bytes : Bytes) :
    lines (records.flatMap encode ++ bytes) = records ++ lines bytes := by
  rw [lines, cut_flatMap_encode_append h]

/-- The remnant behind records that were written. -/
theorem remnant_flatMap_encode_append {records : List Bytes}
    (h : ∀ record ∈ records, newline ∉ record) (bytes : Bytes) :
    remnant (records.flatMap encode ++ bytes) = remnant bytes := by
  rw [remnant, cut_flatMap_encode_append h]

/-! ### More bytes -/

/-- Bytes that follow extend the remnant, and nothing before it. -/
theorem lines_append (a b : Bytes) : lines (a ++ b) = lines a ++ lines (remnant a ++ b) := by
  conv_lhs => rw [← flatMap_encode_lines_append_remnant a, List.append_assoc]
  exact lines_flatMap_encode_append (fun _ h => newline_not_mem_of_mem_lines h) _

/-- Without a newline there is no line. -/
lemma lines_of_not_mem {bytes : Bytes} (h : newline ∉ bytes) : lines bytes = [] := by
  rw [lines, cut_of_not_mem h]

/-- Without a newline all is remnant. -/
lemma remnant_of_not_mem {bytes : Bytes} (h : newline ∉ bytes) : remnant bytes = bytes := by
  rw [remnant, cut_of_not_mem h]

/-- The first line goes up to the first newline. -/
lemma lines_encode_append {line : Bytes} (h : newline ∉ line) (bytes : Bytes) :
    lines (encode line ++ bytes) = line :: lines bytes := by
  rw [lines, cut_encode_append h]
  rfl

/-- The first line has no part in the remnant. -/
lemma remnant_encode_append {line : Bytes} (h : newline ∉ line) (bytes : Bytes) :
    remnant (encode line ++ bytes) = remnant bytes := by
  rw [remnant, cut_encode_append h]
  rfl

/-- A byte string begins with one line at most. -/
lemma encode_append_inj {a b bytes more : Bytes} (ha : newline ∉ a) (hb : newline ∉ b)
    (h : encode a ++ bytes = encode b ++ more) : a = b ∧ bytes = more := by
  have hlines := congrArg lines h
  rw [lines_encode_append ha, lines_encode_append hb, List.cons.injEq] at hlines
  obtain ⟨rfl, -⟩ := hlines
  exact ⟨rfl, List.append_cancel_left h⟩

/-- If no newline comes within a bound, the first line is longer than the bound. -/
lemma lt_length_of_not_mem_take {n : Nat} {line rest : Bytes}
    (h : newline ∉ (encode line ++ rest).take (n + 1)) : n < line.length := by
  by_contra hle
  obtain ⟨k, hk⟩ : ∃ k, n + 1 - line.length = k + 1 := ⟨n - line.length, by omega⟩
  exact h (by simp [encode, List.take_append, hk])

/-- A byte string with a newline begins with a line. -/
lemma exists_eq_encode_append {bytes : Bytes} (h : newline ∈ bytes) :
    ∃ line rest, bytes = encode line ++ rest ∧ newline ∉ line := by
  obtain ⟨line, rest, hbytes, hline⟩ := List.eq_append_cons_of_mem h
  exact ⟨line, rest, by simp [hbytes, encode], hline⟩

/-- Bytes that follow leave a remnant of their own behind the remnant before them. -/
theorem remnant_append (a b : Bytes) : remnant (a ++ b) = remnant (remnant a ++ b) := by
  conv_lhs => rw [← flatMap_encode_lines_append_remnant a, List.append_assoc]
  exact remnant_flatMap_encode_append (fun _ h => newline_not_mem_of_mem_lines h) _

/-- If a piece without a newline comes first, it begins the first line, or the remnant if there is no
line. -/
lemma length_le_of_not_mem_append {a : Bytes} (h : newline ∉ a) (b : Bytes) :
    (∃ line rest, lines (a ++ b) = line :: rest ∧ a.length ≤ line.length) ∨
      (lines (a ++ b) = [] ∧ a.length ≤ (remnant (a ++ b)).length) := by
  have hwhole := flatMap_encode_lines_append_remnant (a ++ b)
  cases hlines : lines (a ++ b) with
  | nil =>
    right
    rw [hlines, List.flatMap_nil, List.nil_append] at hwhole
    rw [hwhole]
    exact ⟨rfl, by simp⟩
  | cons line rest =>
    left
    refine ⟨line, rest, rfl, ?_⟩
    rw [hlines, List.flatMap_cons, encode, List.append_assoc, List.append_assoc] at hwhole
    -- A line shorter than the piece would put its newline inside the piece.
    by_contra hshort
    have hlt : line.length < a.length := by omega
    have hmem : (a ++ b)[line.length]? = some newline := by
      rw [← hwhole, List.getElem?_append_right (le_refl _)]
      simp
    rw [List.getElem?_append_left hlt] at hmem
    exact h (List.mem_of_getElem? hmem)

/-- More bytes only add to the lines before the first one of some kind. -/
theorem takeWhile_lines_append (p : Bytes → Bool) (bytes more : Bytes) :
    (lines bytes).takeWhile p <+: (lines (bytes ++ more)).takeWhile p := by
  rw [lines_append, List.takeWhile_append]
  split
  · next h =>
    have hall : (lines bytes).takeWhile p = lines bytes := (List.takeWhile_prefix _).eq_of_length h
    rw [hall]
    exact List.prefix_append _ _
  · exact List.prefix_rfl

/-- If no newline comes within a bound, the first line is longer, or the remnant if there is no line. -/
lemma lines_of_overlong {limit : Nat} {bytes : Bytes} (hnewline : newline ∉ bytes.take (limit + 1))
    (hlt : limit < bytes.length) :
    (∃ line rest, lines bytes = line :: rest ∧ limit < line.length) ∨
      (lines bytes = [] ∧ limit < (remnant bytes).length) := by
  have hlen : (bytes.take (limit + 1)).length = limit + 1 := by
    rw [List.length_take]
    omega
  have hcases := length_le_of_not_mem_append hnewline (bytes.drop (limit + 1))
  rwa [List.take_append_drop, hlen] at hcases

end Traversal.Bytes
