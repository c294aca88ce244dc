import Mathlib
import Traversal.Proofs.Lines

/-!
# What a decoder answers

A decoder remembers how far it has searched its buffer.  `Decoder.Sound` says that this memory can be
trusted: it stays within the buffer and within what one record can take, and no newline lies before it.
Every operation keeps this, and it is what makes a resumed search find the same newline as a search
from the start.

`next_spec` and `finish_spec` say what a decoder answers when it is not dropping the rest of a record
that was too long, in terms of the bytes in its buffer alone.
-/

namespace Traversal.Record.Decoder

open Bytes

/-! ### Searching for a newline -/

/-- A search that finds nothing has seen no newline before its bound. -/
lemma not_mem_of_firstNewline {position bound : Nat} {bytes : Bytes}
    (h : firstNewline position bound bytes = none) : newline ∉ bytes.take (bound - position) := by
  fun_induction firstNewline position bound bytes with
  | case1 => simp
  | case2 position b rest hbound => simp [Nat.sub_eq_zero_of_le hbound]
  | case3 => simp at h
  | case4 position b rest hbound hb ih =>
    obtain ⟨k, hk⟩ : ∃ k, bound - position = k + 1 := ⟨bound - position - 1, by omega⟩
    have hrest := ih h
    rw [show bound - (position + 1) = k by omega] at hrest
    rw [hk, List.take_succ_cons, List.mem_cons, not_or]
    exact ⟨Ne.symm hb, hrest⟩

/-- A search that finds a newline finds the first one, and before its bound. -/
lemma exists_of_firstNewline {position bound n : Nat} {bytes : Bytes}
    (h : firstNewline position bound bytes = some n) :
    ∃ line rest, bytes = encode line ++ rest ∧ newline ∉ line ∧ position + line.length = n ∧
      n < bound := by
  fun_induction firstNewline position bound bytes with
  | case1 => simp at h
  | case2 => simp at h
  | case3 position rest hbound =>
    rw [Option.some.injEq] at h
    exact ⟨[], rest, by simp [encode], by simp, by simpa using h, by omega⟩
  | case4 position b rest hbound hb ih =>
    obtain ⟨line, tail, hrest, hline, hn, hlt⟩ := ih h
    refine ⟨b :: line, tail, ?_, ?_, ?_, hlt⟩
    · rw [hrest]
      rfl
    · simp [hline, Ne.symm hb]
    · rw [List.length_cons]
      omega

/-! ### The memory of a decoder -/

/-- The memory of a decoder can be trusted. -/
structure Sound (d : Decoder) : Prop where
  searched_le_length : d.searched ≤ d.buffer.length
  /-- No search goes beyond what a record and its newline can take. -/
  searched_le_limit : d.searched ≤ d.limit + 1
  newline_not_mem : newline ∉ d.buffer.take d.searched

/-- A decoder that has searched nothing is sound. -/
lemma sound_of_searched_eq_zero {d : Decoder} (h : d.searched = 0) : d.Sound :=
  ⟨by omega, by omega, by simp [h]⟩

/-- Bytes that arrive do not spoil the memory. -/
lemma Sound.feed {d : Decoder} (h : d.Sound) (bytes : Bytes) : (d.feed bytes).Sound where
  searched_le_length := by
    have := h.searched_le_length
    simp only [Decoder.feed, List.length_append]
    omega
  searched_le_limit := h.searched_le_limit
  newline_not_mem := by
    simpa [Decoder.feed, List.take_append_of_le_length h.searched_le_length]
      using h.newline_not_mem

/-- A resumed search that finds nothing has seen no newline within the limit. -/
lemma Sound.not_mem_of_newlineAt? {d : Decoder} (h : d.Sound) (hn : d.newlineAt? = none) :
    newline ∉ d.buffer.take (d.limit + 1) := by
  have hrest := not_mem_of_firstNewline hn
  have hsplit : d.limit + 1 = d.searched + (d.limit + 1 - d.searched) := by
    have := h.searched_le_limit
    omega
  rw [hsplit, List.take_add, List.mem_append, not_or]
  exact ⟨h.newline_not_mem, hrest⟩

/-- A resumed search finds the end of the first line, if that is within the limit. -/
lemma Sound.exists_of_newlineAt? {d : Decoder} (h : d.Sound) {n : Nat} (hn : d.newlineAt? = some n) :
    ∃ line rest, d.buffer = encode line ++ rest ∧ newline ∉ line ∧ line.length = n ∧
      n ≤ d.limit := by
  obtain ⟨line, rest, hdrop, hline, hlen, hlt⟩ := exists_of_firstNewline hn
  refine ⟨d.buffer.take d.searched ++ line, rest, ?_, ?_, ?_, by omega⟩
  · conv_lhs => rw [← List.take_append_drop d.searched d.buffer, hdrop]
    simp [encode]
  · rw [List.mem_append, not_or]
    exact ⟨h.newline_not_mem, hline⟩
  · rw [List.length_append, List.length_take, Nat.min_eq_left h.searched_le_length]
    exact hlen

/-! ### The next record -/

/-- A pass that answers ends the search. -/
lemma next_of_answer {d d' : Decoder} {a : Answer} (h : d.pass = .answer a d') :
    d.next = (a, d') := by
  rw [next]
  split
  · next _ _ heq =>
    rw [h] at heq
    cases heq
    rfl
  · next _ heq =>
    rw [h] at heq
    cases heq

/-- The next answer of a decoder that drops nothing: the first line if it is within the limit, a
complaint if no newline comes within the limit, and nothing yet otherwise. -/
theorem next_spec {d : Decoder} (h : d.Sound) (hd : d.isDiscarding = false) :
    (∃ line rest, d.buffer = encode line ++ rest ∧ newline ∉ line ∧ line.length ≤ d.limit ∧
        d.next = (.record line, { d with buffer := rest, searched := 0 })) ∨
      (newline ∉ d.buffer.take (d.limit + 1) ∧ d.limit < d.buffer.length ∧
        d.next = (.overlong, { d with isDiscarding := true })) ∨
      (newline ∉ d.buffer ∧ d.buffer.length ≤ d.limit ∧
        d.next = (.nothing, { d with searched := d.buffer.length })) := by
  cases hn : d.newlineAt? with
  | some n =>
    left
    obtain ⟨line, rest, hbuffer, hline, rfl, hle⟩ := h.exists_of_newlineAt? hn
    refine ⟨line, rest, hbuffer, hline, hle, next_of_answer ?_⟩
    simp [pass, hn, hd, hbuffer, encode]
  | none =>
    right
    have hclean := h.not_mem_of_newlineAt? hn
    by_cases hlong : d.limit < d.buffer.length
    · left
      refine ⟨hclean, hlong, next_of_answer ?_⟩
      simp [pass, hn, hd, hlong]
    · right
      rw [List.take_of_length_le (by omega)] at hclean
      refine ⟨hclean, by omega, next_of_answer ?_⟩
      simp [pass, hn, hd, hlong, Nat.min_eq_right (show d.buffer.length ≤ d.limit + 1 by omega)]

/-- The answers of a decoder that drops nothing when no more bytes will come.  They are those of
`next_spec`, except that a fragment without a newline is dropped and the decoder is as good as new. -/
theorem finish_spec {d : Decoder} (h : d.Sound) (hd : d.isDiscarding = false) :
    (∃ line rest, d.buffer = encode line ++ rest ∧ newline ∉ line ∧ line.length ≤ d.limit ∧
        d.finish = (.record line, { d with buffer := rest, searched := 0 })) ∨
      (newline ∉ d.buffer.take (d.limit + 1) ∧ d.limit < d.buffer.length ∧
        d.finish = (.overlong, { d with isDiscarding := true })) ∨
      (newline ∉ d.buffer ∧ d.buffer.length ≤ d.limit ∧
        d.finish = (.nothing, { limit := d.limit })) := by
  rcases next_spec h hd with ⟨line, rest, hbuffer, hline, hle, hnext⟩ | ⟨hclean, hlong, hnext⟩ |
    ⟨hclean, hshort, hnext⟩
  · exact .inl ⟨line, rest, hbuffer, hline, hle, by rw [finish, hnext]⟩
  · exact .inr (.inl ⟨hclean, hlong, by rw [finish, hnext]⟩)
  · refine .inr (.inr ⟨hclean, hshort, ?_⟩)
    rw [finish, hnext]
    obtain ⟨limit, buffer, searched, isDiscarding⟩ := d
    cases buffer with
    | nil => simpa using hd
    | cons b rest => simp

/-! ### No answer adds to the buffer -/

/-- A pass that answers has added nothing to the buffer, and a record is taken out of it. -/
lemma length_of_answer {d d' : Decoder} {a : Answer} (h : d.pass = .answer a d') :
    d'.buffer.length ≤ d.buffer.length ∧
      ∀ record, a = .record record → d'.buffer.length < d.buffer.length := by
  unfold pass at h
  split at h
  · next n hn =>
    have hlt := lt_length_of_newlineAt? hn
    simp only at h
    split at h
    · cases h
    · cases h
      simp only [List.length_drop]
      exact ⟨by omega, fun _ _ => by omega⟩
  · split at h
    · simp only at h
      split at h <;> cases h
      simp
    · split at h <;> cases h <;> simp

/-- Asking for the next record adds nothing to the buffer, and takes a record out of it. -/
lemma length_of_next (d : Decoder) :
    d.next.2.buffer.length ≤ d.buffer.length ∧
      ∀ record, d.next.1 = .record record → d.next.2.buffer.length < d.buffer.length := by
  fun_induction next d with
  | case1 d a d' h => exact length_of_answer h
  | case2 d d' h _ ih =>
    have hlt := length_lt_of_pass h
    exact ⟨by omega, fun _ _ => by omega⟩

/-- The buffer does not grow when the decoder is asked for a record. -/
lemma length_le_of_next {d d' : Decoder} {a : Answer} (h : d.next = (a, d')) :
    d'.buffer.length ≤ d.buffer.length := by
  simpa [h] using (length_of_next d).1

/-- The buffer shrinks when it yields a record. -/
lemma length_lt_of_next {d d' : Decoder} {record : Bytes} (h : d.next = (.record record, d')) :
    d'.buffer.length < d.buffer.length := by
  simpa [h] using (length_of_next d).2 record

/-- The buffer does not grow at the end of the stream. -/
lemma length_le_of_finish {d d' : Decoder} {a : Answer} (h : d.finish = (a, d')) :
    d'.buffer.length ≤ d.buffer.length := by
  unfold finish at h
  split at h
  · next heq =>
    split at h <;> cases h
    · exact length_le_of_next heq
    · simp
  · exact length_le_of_next h

/-- The buffer shrinks when it yields a record at the end of the stream. -/
lemma length_lt_of_finish {d d' : Decoder} {record : Bytes} (h : d.finish = (.record record, d')) :
    d'.buffer.length < d.buffer.length := by
  unfold finish at h
  split at h
  · split at h <;> cases h
  · exact length_lt_of_next h

end Traversal.Record.Decoder
