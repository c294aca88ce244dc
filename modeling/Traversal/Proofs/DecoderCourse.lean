import Mathlib
import Traversal.Proofs.Decoding

/-!
# Courses of a decoder

A decoder can be fed, asked for the next record, and asked for it when no more bytes will come, any number
of times and in any order.  Its memory can be trusted after every such course (`sound_after`), also when
records that were too long have come up and have been dropped.

When the end of a stream is answered with nothing, only one thing of what has been before can be left
(`finish_of_nothing`): a decoder that has been in the middle of dropping an over-long record, as
`isMidRecord` tells, goes on to drop it.  Otherwise it is as good as new.  `answers_after_finish` says what this
means for the stream that comes next.
-/

namespace Traversal.Record.Decoder

open Bytes

/-! ### Courses -/

/-- What can be done with a decoder. -/
inductive Use
  | feed (bytes : Bytes)
  /-- It is asked for the next record. -/
  | next
  /-- It is asked for the next record, and no more bytes will come. -/
  | finish
deriving DecidableEq, Repr

/-- A decoder after a use. -/
def use (d : Decoder) : Use → Decoder
  | .feed bytes => d.feed bytes
  | .next => d.next.2
  | .finish => d.finish.2

/-- What a decoder answers if it is asked. -/
def answer? (d : Decoder) : Use → Option Answer
  | .feed _ => none
  | .next => some d.next.1
  | .finish => some d.finish.1

/-- A decoder after a course. -/
def after (d : Decoder) (uses : List Use) : Decoder :=
  uses.foldl use d

/-- What a decoder answers in a course. -/
def answers (d : Decoder) : List Use → List Answer
  | [] => []
  | u :: uses => (d.answer? u).toList ++ (d.use u).answers uses

/-! ### The memory after a course -/

variable {d : Decoder}

/-- Asking a decoder that drops nothing keeps its memory sound. -/
lemma Sound.next_of_keeping (h : d.Sound) (hd : d.isDiscarding = false) :
    d.next.2.Sound ∧ d.next.2.limit = d.limit := by
  rcases next_spec h hd with ⟨line, rest, -, -, -, hnext⟩ | ⟨-, -, hnext⟩ | ⟨hclean, hshort, hnext⟩
  · rw [hnext]
    exact ⟨sound_of_searched_eq_zero rfl, rfl⟩
  · rw [hnext]
    exact ⟨⟨h.searched_le_length, h.searched_le_limit, h.newline_not_mem⟩, rfl⟩
  · rw [hnext]
    exact ⟨⟨le_refl _, Nat.le_succ_of_le hshort, by simpa using hclean⟩, rfl⟩

/-- Asking for the next record keeps the memory sound. -/
lemma Sound.next (h : d.Sound) : d.next.2.Sound ∧ d.next.2.limit = d.limit := by
  cases hd : d.isDiscarding with
  | false => exact h.next_of_keeping hd
  | true =>
    by_cases hmem : newline ∈ d.buffer
    · -- Behind the newline the decoder goes on like a new one.
      obtain ⟨line, rest, hbuffer, hline⟩ := exists_eq_encode_append hmem
      rw [next_of_encode_append h hd hline hbuffer]
      exact (sound_of_searched_eq_zero rfl : Sound { limit := d.limit, buffer := rest }).next_of_keeping rfl
    · rw [next_of_not_mem hd hmem]
      exact ⟨sound_of_searched_eq_zero rfl, rfl⟩

/-- Asking at the end of a stream keeps the memory sound. -/
lemma Sound.finish (h : d.Sound) : d.finish.2.Sound ∧ d.finish.2.limit = d.limit := by
  have hnext := h.next
  unfold Decoder.finish
  split
  · next d' heq =>
    rw [heq] at hnext
    split
    · exact hnext
    · exact ⟨sound_of_searched_eq_zero rfl, rfl⟩
  · exact hnext

/-- Whatever is done with a decoder keeps its memory sound. -/
lemma Sound.use (h : d.Sound) (u : Use) : (d.use u).Sound ∧ (d.use u).limit = d.limit := by
  cases u with
  | feed bytes => exact ⟨h.feed bytes, rfl⟩
  | next => exact h.next
  | finish => exact h.finish

/-- After every course of a new decoder its memory is sound. -/
theorem sound_after (limit : Nat) (uses : List Use) :
    (({ limit } : Decoder).after uses).Sound ∧ (({ limit } : Decoder).after uses).limit = limit := by
  induction uses using List.reverseRecOn with
  | nil => exact ⟨sound_of_searched_eq_zero rfl, rfl⟩
  | append_singleton uses u ih =>
    obtain ⟨hsound, hlimit⟩ := ih
    obtain ⟨hsound', hlimit'⟩ := hsound.use u
    rw [after, List.foldl_append]
    exact ⟨hsound', hlimit'.trans hlimit⟩

/-! ### What the end of a stream leaves -/

/-- The decoder is dropping a record that was too long, and the end of the record has not come. -/
def isMidRecord (d : Decoder) : Bool :=
  d.isDiscarding && !d.buffer.contains newline

/-- The answer at the end of a stream is a matter of the answer before it. -/
lemma finish_congr {d' : Decoder} (hnext : d.next = d'.next) (hlimit : d.limit = d'.limit) :
    d.finish = d'.finish := by
  rw [finish, finish, hnext, hlimit]

/-- If the end of a stream is answered with nothing, a decoder that drops nothing is as good as new. -/
lemma finish_of_keeping (h : d.Sound) (hd : d.isDiscarding = false) (hnothing : d.finish.1 = .nothing) :
    d.finish.2 = { limit := d.limit } := by
  rcases finish_spec h hd with ⟨line, rest, -, -, -, hfinish⟩ | ⟨-, -, hfinish⟩ | ⟨-, -, hfinish⟩
  · simp [hfinish] at hnothing
  · simp [hfinish] at hnothing
  · rw [hfinish]

/-- If the end of a stream is answered with nothing, nothing is left of what has been before, unless the
decoder is in the middle of a record that it drops. -/
theorem finish_of_nothing (h : d.Sound) (hnothing : d.finish.1 = .nothing) :
    d.finish.2 = { limit := d.limit, isDiscarding := d.isMidRecord } := by
  cases hd : d.isDiscarding with
  | false =>
    rw [finish_of_keeping h hd hnothing, isMidRecord, hd, Bool.false_and]
  | true =>
    by_cases hmem : newline ∈ d.buffer
    · obtain ⟨line, rest, hbuffer, hline⟩ := exists_eq_encode_append hmem
      let d' : Decoder := { limit := d.limit, buffer := rest }
      have hfinish : d.finish = d'.finish :=
        finish_congr (next_of_encode_append h hd hline hbuffer) rfl
      have hnew : d'.finish.2 = { limit := d.limit } :=
        finish_of_keeping (sound_of_searched_eq_zero rfl) rfl (hfinish ▸ hnothing)
      have hmid : d.isMidRecord = false := by simp [isMidRecord, hmem]
      rw [hfinish, hnew, hmid]
    · have hmid : d.isMidRecord = true := by simp [isMidRecord, hd, hmem]
      simp [finish, next_of_not_mem hd hmem, hmid, hd]

/-- A new decoder has nothing to say. -/
lemma next_of_new (limit : Nat) : ({ limit } : Decoder).next = (.nothing, { limit }) :=
  next_of_answer (by simp [pass, newlineAt?, firstNewline])

/-- A new decoder that is fed with an empty line yields it. -/
lemma next_of_empty_line (limit : Nat) :
    (({ limit } : Decoder).feed [newline]).next = (.record [], { limit }) :=
  next_of_answer (by simp [pass, newlineAt?, firstNewline, feed])

/-- Whatever has been done with a decoder: when the end of the stream is answered with nothing, its buffer is
empty.  From then on it answers like a new one if and only if it has not been in the middle of an over-long
record.  If it has, it drops the next stream up to and including the first newline, and only then goes on
like a new one. -/
theorem answers_after_finish (limit : Nat) (uses : List Use)
    (hnothing : (({ limit } : Decoder).after uses).finish.1 = .nothing) :
    let d := ({ limit } : Decoder).after uses
    let fresh : Decoder := { limit }
    d.finish.2.buffer = [] ∧
      ((∀ more, d.finish.2.answers more = fresh.answers more) ↔ d.isMidRecord = false) ∧
      (d.isMidRecord = true → ∀ line rest, newline ∉ line →
        (d.finish.2.feed (encode line ++ rest)).next = (fresh.feed rest).next) := by
  intro d fresh
  obtain ⟨hsound, hlimit⟩ := sound_after limit uses
  have hleft : d.finish.2 = { limit, isDiscarding := d.isMidRecord } := by
    have hfinish := finish_of_nothing hsound hnothing
    rwa [hlimit] at hfinish
  have hdrop : d.isMidRecord = true → ∀ line rest, newline ∉ line →
      (d.finish.2.feed (encode line ++ rest)).next = (fresh.feed rest).next := by
    intro hmid line rest hline
    rw [hleft, hmid]
    exact next_of_encode_append (sound_of_searched_eq_zero rfl) rfl hline rfl
  refine ⟨by rw [hleft], ⟨fun hanswers => ?_, fun hkeeping more => ?_⟩, hdrop⟩
  · -- An empty line tells the two apart.
    rw [← Bool.not_eq_true]
    intro hmid
    have hlost : (d.finish.2.feed [newline]).next = (.nothing, fresh) :=
      (hdrop hmid [] [] List.not_mem_nil).trans (next_of_new limit)
    have hfound : (fresh.feed [newline]).next = (.record [], fresh) := next_of_empty_line limit
    have hsame := hanswers [.feed [newline], .next]
    simp [answers, answer?, use, hlost, hfound] at hsame
  · rw [hleft, hkeeping]

/-- A record that was too long has been dropped through its newline before the stream ends in a fragment:
the decoder is as good as new. -/
theorem answers_after_dropped_record :
    let uses : List Use := [.feed (Bytes.ofText "abcde\nfg"), .next, .next]
    let d := ({ limit := 3 } : Decoder).after uses
    ({ limit := 3 } : Decoder).answers uses = [.overlong, .nothing] ∧ d.finish.1 = .nothing ∧
      d.buffer = Bytes.ofText "fg" ∧ d.finish.2.buffer = [] ∧
      ∀ more, d.finish.2.answers more = ({ limit := 3 } : Decoder).answers more := by
  intro uses d
  have hnothing : d.finish.1 = .nothing := by decide +kernel
  have hkeeping : d.isMidRecord = false := by decide +kernel
  obtain ⟨hempty, hanswers, -⟩ := answers_after_finish 3 uses hnothing
  exact ⟨by decide +kernel, hnothing, by decide +kernel, hempty, hanswers.mpr hkeeping⟩

/-- The stream ends in the middle of a record that is too long, and the decoder has dropped all of it that has
come.  It answers with nothing and its buffer is empty, yet the first line of the next stream is lost. -/
theorem line_lost_after_finish :
    let uses : List Use := [.feed (Bytes.ofText "abcd"), .next, .next]
    let more : List Use := [.feed (Bytes.ofText "xy\n"), .next]
    let d := ({ limit := 3 } : Decoder).after uses
    d.finish.1 = .nothing ∧ d.finish.2.buffer = [] ∧ d.finish.2.answers more = [.nothing] ∧
      ({ limit := 3 } : Decoder).answers more = [.record (Bytes.ofText "xy")] := by
  intro uses more d
  exact ⟨by decide +kernel, by decide +kernel, by decide +kernel, by decide +kernel⟩

end Traversal.Record.Decoder
