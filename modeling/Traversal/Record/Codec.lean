import Traversal.Bytes

/-!
# Records on a byte stream

A record is written as its bytes and one newline.  A `Decoder` collects bytes as they arrive and cuts
them at newlines.  It never lets an unfinished record grow beyond its limit: such a record is reported
once and then dropped up to and including its newline.  The decoder remembers how far it has searched,
so that no byte is looked at twice.
-/

namespace Traversal.Record

/-- A record as it is written. -/
def encode (record : Bytes) : Bytes :=
  record ++ [Bytes.newline]

/-- Bytes that have arrived, and how far they have been searched. -/
structure Decoder where
  /-- The greatest length of a record. -/
  limit : Nat
  buffer : Bytes := []
  /-- So many bytes at the front of the buffer have been searched. -/
  searched : Nat := 0
  /-- The rest of a record that was too long is being dropped. -/
  isDiscarding : Bool := false
deriving DecidableEq, Repr

/-- What asking for the next record yields. -/
inductive Answer
  | record (bytes : Bytes)
  /-- A record exceeds the limit. -/
  | overlong
  /-- There is no whole record yet. -/
  | nothing
deriving DecidableEq, Repr

namespace Decoder

/-- Bytes arrive behind all others. -/
def feed (d : Decoder) (bytes : Bytes) : Decoder :=
  { d with buffer := d.buffer ++ bytes }

/-- The position of the first newline before a bound, where the first byte has the given position. -/
def firstNewline (position bound : Nat) : Bytes → Option Nat
  | [] => none
  | b :: rest =>
    if bound ≤ position then none
    else if b = Bytes.newline then some position
    else firstNewline (position + 1) bound rest

/-- The position of the first newline that the next pass finds.  It searches as much as a record and its
newline can take, less what has been searched. -/
def newlineAt? (d : Decoder) : Option Nat :=
  firstNewline d.searched (d.limit + 1) (d.buffer.drop d.searched)

/-- What one pass over the buffer leads to. -/
inductive Pass
  | answer (answer : Answer) (d : Decoder)
  /-- Something has been dropped, and another pass is due. -/
  | again (d : Decoder)

/-- One pass over the buffer. -/
def pass (d : Decoder) : Pass :=
  match d.newlineAt? with
  | some n =>
    let rest : Decoder := { d with buffer := d.buffer.drop (n + 1), searched := 0 }
    if d.isDiscarding then .again { rest with isDiscarding := false }
    else .answer (.record (d.buffer.take n)) rest
  | none =>
    if d.isDiscarding then
      let rest : Decoder := { d with buffer := d.buffer.drop (d.limit + 1), searched := 0 }
      if rest.buffer.isEmpty then .answer .nothing rest else .again rest
    else if d.limit < d.buffer.length then .answer .overlong { d with isDiscarding := true }
    else .answer .nothing { d with searched := min (d.limit + 1) d.buffer.length }

theorem lt_of_firstNewline {position bound n : Nat} {rest : Bytes}
    (h : firstNewline position bound rest = some n) : n < position + rest.length := by
  fun_induction firstNewline position bound rest with
  | case1 => simp at h
  | case2 => simp at h
  | case3 => simp only [Option.some.injEq] at h; simp only [List.length_cons]; omega
  | case4 _ _ _ _ _ ih => have := ih h; simp only [List.length_cons]; omega

theorem lt_length_of_newlineAt? {d : Decoder} {n : Nat} (h : d.newlineAt? = some n) :
    n < d.buffer.length := by
  unfold newlineAt? at h
  by_cases hs : d.searched ≤ d.buffer.length
  · have := lt_of_firstNewline h
    rw [List.length_drop] at this
    omega
  · rw [List.drop_eq_nil_of_le (by omega)] at h
    simp [firstNewline] at h

/-- A pass that calls for another one has dropped something. -/
theorem length_lt_of_pass {d d' : Decoder} (h : d.pass = .again d') :
    d'.buffer.length < d.buffer.length := by
  unfold pass at h
  split at h
  · next n hn =>
    have := lt_length_of_newlineAt? hn
    simp only at h
    split at h
    · cases h
      simp only [List.length_drop]; omega
    · simp at h
  · split at h
    · simp only at h
      split at h
      · simp at h
      · next he =>
        cases h
        simp only [List.isEmpty_iff, ← List.length_eq_zero_iff, List.length_drop] at he ⊢
        omega
    · split at h <;> simp at h

/-- Asks for the next record. -/
def next (d : Decoder) : Answer × Decoder :=
  match h : d.pass with
  | .answer a d' => (a, d')
  | .again d' =>
    have := length_lt_of_pass h
    d'.next
termination_by d.buffer.length

/-- Asks for the next record when no more bytes will come.  A fragment without a newline is dropped,
and the decoder is as good as new. -/
def finish (d : Decoder) : Answer × Decoder :=
  match d.next with
  | (.nothing, d') => if d'.buffer.isEmpty then (.nothing, d') else (.nothing, { limit := d.limit })
  | answer => answer

end Decoder
end Traversal.Record
