import Mathlib
import Traversal.Proofs.Lines
import Traversal.Task.Router

/-!
# Reading a whole stream at once

What a stream of the engine asks of its reader, said of the stream as a whole.  The stream is cut into
lines; the lines before the first one that is over-long or marked are messages, and that line decides how
the reading ends.  Without such a line the remnant decides, if it is over-long, and otherwise the end of
the stream.

`messages_append` and `verdict_append` say that this reading can be trusted before the stream is
complete: more bytes only add messages, and nothing changes a verdict once there is one.
-/

namespace Traversal

/-- How a stream ends. -/
inductive StreamEnd
  | eof
  | fault (fault : IoFault)
deriving DecidableEq, Repr

namespace Arrival

/-- The bytes that can be read before the stream ends or fails. -/
def readable : List Arrival → Bytes
  | .data bytes :: rest => bytes ++ readable rest
  | _ => []

/-- The end of the stream, if it has come. -/
def ending? : List Arrival → Option StreamEnd
  | [] => none
  | .data _ :: rest => ending? rest
  | .eof :: _ => some .eof
  | .fault reason :: _ => some (.fault reason)

/-- As long as the stream has not ended, more can be read. -/
lemma readable_append_of_ending?_eq_none {arrivals : List Arrival} (h : ending? arrivals = none)
    (more : List Arrival) : readable (arrivals ++ more) = readable arrivals ++ readable more := by
  induction arrivals with
  | nil => rfl
  | cons a arrivals ih =>
    cases a with
    | data bytes => simpa [readable] using ih h
    | eof => simp [ending?] at h
    | fault reason => simp [ending?] at h

/-- Nothing can be read behind the end of the stream. -/
lemma readable_append_of_ending?_eq_some {arrivals : List Arrival} {e : StreamEnd}
    (h : ending? arrivals = some e) (more : List Arrival) :
    readable (arrivals ++ more) = readable arrivals := by
  induction arrivals with
  | nil => simp [ending?] at h
  | cons a arrivals ih =>
    cases a with
    | data bytes => simpa [readable] using ih h
    | eof => rfl
    | fault reason => rfl

/-- The first end counts. -/
lemma ending?_append (arrivals more : List Arrival) :
    ending? (arrivals ++ more) = (ending? arrivals).or (ending? more) := by
  induction arrivals with
  | nil => rfl
  | cons a arrivals ih =>
    cases a with
    | data bytes => exact ih
    | eof => rfl
    | fault reason => rfl

/-- What has arrived does not become unreadable. -/
lemma readable_prefix_append (arrivals more : List Arrival) :
    readable arrivals <+: readable (arrivals ++ more) := by
  cases h : ending? arrivals with
  | none =>
    rw [readable_append_of_ending?_eq_none h]
    exact List.prefix_append _ _
  | some e => rw [readable_append_of_ending?_eq_some h]

/-- An empty chunk does not enter a source, and is nothing to read. -/
lemma readable_arrive (s : Source) (a : Arrival) :
    readable (s.arrive a).arrivals = readable (s.arrivals ++ [a]) ∧
      ending? (s.arrive a).arrivals = ending? (s.arrivals ++ [a]) := by
  cases a with
  | data bytes =>
    cases bytes with
    | cons b bytes => exact ⟨rfl, rfl⟩
    | nil =>
      constructor
      · cases hend : ending? s.arrivals with
        | none =>
          rw [readable_append_of_ending?_eq_none hend]
          simp [Source.arrive, readable]
        | some e =>
          rw [readable_append_of_ending?_eq_some hend]
          rfl
      · simp [Source.arrive, ending?_append, ending?]
  | eof => exact ⟨rfl, rfl⟩
  | fault reason => exact ⟨rfl, rfl⟩

/-- What arrives at a stream comes behind what has been taken from it and what has yet to be taken. -/
lemma readable_concat {arrivals : List Arrival} {taken : Bytes} {s : Source}
    (hreadable : readable arrivals = taken ++ readable s.arrivals)
    (hending : ending? arrivals = ending? s.arrivals) (a : Arrival) :
    readable (arrivals ++ [a]) = taken ++ readable (s.arrive a).arrivals ∧
      ending? (arrivals ++ [a]) = ending? (s.arrive a).arrivals := by
  obtain ⟨hread, hend⟩ := readable_arrive s a
  rw [hread, hend]
  refine ⟨?_, by rw [ending?_append, ending?_append, hending]⟩
  cases hcase : ending? arrivals with
  | none =>
    rw [readable_append_of_ending?_eq_none hcase, readable_append_of_ending?_eq_none (hending ▸ hcase),
      hreadable, List.append_assoc]
  | some e =>
    rw [readable_append_of_ending?_eq_some hcase, readable_append_of_ending?_eq_some (hending ▸ hcase),
      hreadable]

/-- The end of a stream stays where it is. -/
lemma eof_arrive {s : Source} {rest : List Arrival} (h : s.arrivals = .eof :: rest) (a : Arrival) :
    ∃ rest', (s.arrive a).arrivals = .eof :: rest' := by
  unfold Source.arrive
  split
  · exact ⟨rest, h⟩
  · exact ⟨rest ++ [a], by simp [h]⟩

end Arrival

namespace Router

open Bytes Record

/-- How the reading of a stream ends. -/
inductive Verdict
  /-- With the negotiated path. -/
  | connected (t : FiveTuple)
  /-- With a report, which names a failure unless the stream has come to its end. -/
  | reported (failure? : Option Failure)
  /-- Not yet. -/
  | undecided
deriving DecidableEq, Repr

/-- Whether a line is a message. -/
def isPlain (limit : Nat) (line : Bytes) : Bool :=
  line.length ≤ limit && !FiveTuple.isMarked line

/-- The verdict of a line that is not a message. -/
def judge (limit : Nat) (line : Bytes) : Verdict :=
  if limit < line.length then .reported (some (.lineTooLong limit))
  else
    match readResult line with
    | .ok t => .connected t
    | .error failure => .reported (some failure)

/-- The verdict at the end of a stream. -/
def conclude : Option StreamEnd → Verdict
  | none => .undecided
  | some .eof => .reported none
  | some (.fault fault) => .reported (some (.stream fault))

/-- The messages of a stream: the lines before the first one that is over-long or marked. -/
def messages (limit : Nat) (bytes : Bytes) : List Bytes :=
  (lines bytes).takeWhile (isPlain limit)

/-- The verdict of a stream: that of the first line which is over-long or marked, or else of an over-long
remnant, or else of the end. -/
def verdict (limit : Nat) (bytes : Bytes) (end? : Option StreamEnd) : Verdict :=
  match (lines bytes).dropWhile (isPlain limit) with
  | line :: _ => judge limit line
  | [] =>
    if limit < (remnant bytes).length then .reported (some (.lineTooLong limit)) else conclude end?

/-- A line that is longer than the limit is no message. -/
lemma isPlain_eq_false_of_lt {limit : Nat} {line : Bytes} (h : limit < line.length) :
    isPlain limit line = false := by
  simp [isPlain, h]

/-- A line that is judged decides. -/
lemma judge_ne_undecided (limit : Nat) (line : Bytes) : judge limit line ≠ .undecided := by
  unfold judge
  split
  · simp
  · split <;> simp

/-! ### Behind messages -/

section Behind

variable {limit : Nat} {sent : List Bytes}
  (hsent : ∀ message ∈ sent, newline ∉ message ∧ isPlain limit message = true)
include hsent

/-- Behind messages the reading starts afresh. -/
lemma messages_flatMap_encode_append (bytes : Bytes) :
    messages limit (sent.flatMap encode ++ bytes) = sent ++ messages limit bytes := by
  have hlines := lines_flatMap_encode_append (fun m hm => (hsent m hm).1) bytes
  unfold messages
  rw [hlines, List.takeWhile_append_of_pos fun m hm => (hsent m hm).2]

/-- Messages have no part in the verdict. -/
lemma verdict_flatMap_encode_append (bytes : Bytes) (end? : Option StreamEnd) :
    verdict limit (sent.flatMap encode ++ bytes) end? = verdict limit bytes end? := by
  have hlines := lines_flatMap_encode_append (fun m hm => (hsent m hm).1) bytes
  have hremnant := remnant_flatMap_encode_append (fun m hm => (hsent m hm).1) bytes
  unfold verdict
  rw [hlines, hremnant, List.dropWhile_append_of_pos fun m hm => (hsent m hm).2]

end Behind

/-! ### What comes next in a stream -/

section Next

variable {limit : Nat}

/-- A marked line is no message, and decides. -/
lemma reading_of_marked (limit : Nat) {line : Bytes} (hnewline : newline ∉ line)
    (hmarked : FiveTuple.isMarked line = true) (rest : Bytes) (end? : Option StreamEnd) :
    messages limit (encode line ++ rest) = [] ∧
      verdict limit (encode line ++ rest) end? = judge limit line := by
  have hlines := lines_encode_append hnewline rest
  have hplain : isPlain limit line = false := by simp [isPlain, hmarked]
  constructor
  · simp [messages, hlines, hplain]
  · simp [verdict, hlines, hplain]

/-- If no newline comes within the limit, the stream is over-long. -/
lemma reading_of_overlong {bytes : Bytes} (hnewline : newline ∉ bytes.take (limit + 1))
    (hlt : limit < bytes.length) (end? : Option StreamEnd) :
    messages limit bytes = [] ∧
      verdict limit bytes end? = .reported (some (.lineTooLong limit)) := by
  rcases lines_of_overlong hnewline hlt with ⟨line, rest, hlines, hlong⟩ | ⟨hlines, hlong⟩
  · have hplain : isPlain limit line = false := isPlain_eq_false_of_lt hlong
    constructor
    · simp [messages, hlines, hplain]
    · simp [verdict, hlines, hplain, judge, hlong]
  · constructor
    · simp [messages, hlines]
    · simp [verdict, hlines, hlong]

/-- A fragment within the limit leaves the verdict to the end of the stream. -/
lemma reading_of_fragment {bytes : Bytes} (hnewline : newline ∉ bytes)
    (hle : bytes.length ≤ limit) (end? : Option StreamEnd) :
    messages limit bytes = [] ∧ verdict limit bytes end? = conclude end? := by
  constructor
  · simp [messages, lines_of_not_mem hnewline]
  · simp [verdict, lines_of_not_mem hnewline, remnant_of_not_mem hnewline, Nat.not_lt.mpr hle]

end Next

/-! ### More bytes -/

/-- More bytes only add messages. -/
theorem messages_append (limit : Nat) (bytes more : Bytes) :
    messages limit bytes <+: messages limit (bytes ++ more) :=
  takeWhile_lines_append _ _ _

/-- More bytes, and the end of the stream, change nothing once there is a verdict. -/
theorem verdict_append {limit : Nat} {bytes : Bytes} (h : verdict limit bytes none ≠ .undecided)
    (more : Bytes) (end? : Option StreamEnd) :
    verdict limit (bytes ++ more) end? = verdict limit bytes none ∧
      messages limit (bytes ++ more) = messages limit bytes := by
  cases hdrop : (lines bytes).dropWhile (isPlain limit) with
  | cons line rest =>
    have hlong : ((lines bytes).takeWhile (isPlain limit)).length ≠ (lines bytes).length := by
      intro heq
      have := congrArg List.length (List.takeWhile_append_dropWhile (p := isPlain limit)
        (l := lines bytes))
      simp [hdrop] at this
      omega
    constructor
    · unfold verdict
      rw [lines_append, List.dropWhile_append, hdrop]
      rfl
    · unfold messages
      rw [lines_append, List.takeWhile_append, if_neg hlong]
  | nil =>
    have hplain : ∀ line ∈ lines bytes, isPlain limit line = true :=
      List.dropWhile_eq_nil_iff.mp hdrop
    have hlt : limit < (remnant bytes).length := by
      by_contra hle
      exact h (by simp [verdict, hdrop, hle, conclude])
    -- The remnant is over-long already, and stays at the front of whatever follows.
    have hfront : newline ∉ (remnant bytes ++ more).take (limit + 1) := by
      rw [List.take_append_of_le_length (by omega)]
      exact fun hmem => newline_not_mem_remnant bytes (List.mem_of_mem_take hmem)
    obtain ⟨hmessages, hverdict⟩ := reading_of_overlong hfront
      (by rw [List.length_append]; omega) end?
    have hsent : ∀ line ∈ lines bytes, newline ∉ line ∧ isPlain limit line = true :=
      fun line hline => ⟨newline_not_mem_of_mem_lines hline, hplain line hline⟩
    have hwhole : bytes ++ more = (lines bytes).flatMap encode ++ (remnant bytes ++ more) := by
      rw [← List.append_assoc, flatMap_encode_lines_append_remnant]
    constructor
    · rw [hwhole, verdict_flatMap_encode_append hsent, hverdict]
      simp [verdict, hdrop, hlt]
    · rw [hwhole, messages_flatMap_encode_append hsent, hmessages, List.append_nil, messages,
        List.takeWhile_eq_self_iff.mpr hplain]

end Router
end Traversal
