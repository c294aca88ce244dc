import Mathlib
import Traversal.Failure
import Traversal.Proofs.Decoder

/-!
# Decoding a byte stream in pieces

A reader feeds a decoder with the chunks of a stream and, after each of them, asks for records until
there is none, going on after complaints (`Decoder.drain`, `Decoder.consume`).  What it gets does not
depend on where the stream has been cut: it is what the lines of the whole stream say
(`Decoder.outcomes`), and what the decoder keeps is the remnant of the stream, unless that is
over-long already (`Decoder.residue`).

The state of a decoder that has been asked for everything is a matter of the bytes alone, and
`Drained` says which: either the remnant is in the buffer, or the decoder is dropping an over-long
record and its buffer is empty.  One chunk takes it from the stream before to the stream after
(`Drained.drain_feed`), and a course of chunks follows by induction.

Reading is inverse to writing, in both directions (`yields_flatMap_encode`).
-/

namespace Traversal.Record.Decoder

open Bytes

/-! ### Dropping the rest of a record -/

/-- A pass that calls for another one hands the question on. -/
lemma next_of_again {d d' : Decoder} (h : d.pass = .again d') : d.next = d'.next := by
  rw [next]
  split
  · next _ _ heq =>
    rw [h] at heq
    cases heq
  · next _ heq =>
    rw [h] at heq
    cases heq
    rfl

/-- Without a newline, a decoder that drops the rest of a record drops all it has. -/
lemma next_of_not_mem {d : Decoder} (hd : d.isDiscarding = true) (h : newline ∉ d.buffer) :
    d.next = (.nothing, { d with buffer := [], searched := 0 }) := by
  induction hn : d.buffer.length using Nat.strong_induction_on generalizing d with
  | _ n ih =>
    subst hn
    have hnone : d.newlineAt? = none := by
      cases hsome : d.newlineAt? with
      | none => rfl
      | some k =>
        obtain ⟨line, rest, hdrop, -⟩ := exists_of_firstNewline hsome
        have hmem : newline ∈ d.buffer.drop d.searched := by simp [hdrop, encode]
        exact absurd (List.mem_of_mem_drop hmem) h
    by_cases hempty : d.buffer.drop (d.limit + 1) = []
    · exact next_of_answer (by simp [pass, hnone, hd, hempty])
    · -- Another pass drops the rest, which is shorter and holds no newline either.
      let d' : Decoder := { d with buffer := d.buffer.drop (d.limit + 1), searched := 0 }
      have hpass : d.pass = .again d' := by simp [pass, hnone, hd, hempty, d']
      rw [next_of_again hpass]
      exact ih d'.buffer.length (length_lt_of_pass hpass) (d := d') hd
        (fun hmem => h (List.mem_of_mem_drop hmem)) rfl

/-- A decoder that drops the rest of a record drops it through its newline, and goes on behind it like a
new one. -/
lemma next_of_encode_append {d : Decoder} (h : d.Sound) (hd : d.isDiscarding = true)
    {line rest : Bytes} (hline : newline ∉ line) (hbuffer : d.buffer = encode line ++ rest) :
    d.next = ({ limit := d.limit, buffer := rest } : Decoder).next := by
  induction hn : d.buffer.length using Nat.strong_induction_on generalizing d line with
  | _ n ih =>
    subst hn
    cases hsome : d.newlineAt? with
    | some k =>
      obtain ⟨first, rest', hfirst, hclean, rfl, -⟩ := h.exists_of_newlineAt? hsome
      obtain ⟨rfl, rfl⟩ : first = line ∧ rest' = rest :=
        encode_append_inj hclean hline (hfirst.symm.trans hbuffer)
      exact next_of_again (by simp [pass, hsome, hd, hfirst, encode])
    | none =>
      -- The newline lies beyond what one pass drops.
      have hlong : d.limit < line.length :=
        lt_length_of_not_mem_take (hbuffer ▸ h.not_mem_of_newlineAt? hsome)
      have hdrop : d.buffer.drop (d.limit + 1) = encode (line.drop (d.limit + 1)) ++ rest := by
        rw [hbuffer, encode, encode, List.append_assoc, List.drop_append_of_le_length hlong,
          List.append_assoc]
      let d' : Decoder := { d with buffer := d.buffer.drop (d.limit + 1), searched := 0 }
      have hpass : d.pass = .again d' := by simp [pass, hsome, hd, hdrop, encode, d']
      rw [next_of_again hpass]
      exact ih d'.buffer.length (length_lt_of_pass hpass) (d := d') (sound_of_searched_eq_zero rfl) hd
        (fun hmem => hline (List.mem_of_mem_drop hmem)) hdrop rfl

/-! ### Asking until there is nothing -/

/-- A bound on the number of questions that a decoder can be asked before it has nothing to say. -/
def patience (d : Decoder) : Nat :=
  2 * d.buffer.length + if d.isDiscarding then 0 else 1

/-- A complaint or a record takes from the patience, if one pass leads to it. -/
lemma patience_lt_of_answer {d d' : Decoder} {a : Answer} (h : d.pass = .answer a d')
    (ha : a ≠ .nothing) : d'.patience < d.patience := by
  have hlength := length_of_answer h
  unfold pass at h
  split at h
  · simp only at h
    split at h
    · cases h
    · next hd =>
      cases h
      have hlt := hlength.2 _ rfl
      simp only [patience, hd, Bool.false_eq_true, if_false] at hlt ⊢
      omega
  · split at h
    · simp only at h
      split at h <;> cases h
      exact absurd rfl ha
    · next hd =>
      split at h <;> cases h
      · simp [patience, hd]
      · exact absurd rfl ha

/-- Every answer but the last one takes from the patience. -/
lemma patience_lt_of_next {d d' : Decoder} {a : Answer} (h : d.next = (a, d')) (ha : a ≠ .nothing) :
    d'.patience < d.patience := by
  fun_induction next d with
  | case1 d b d'' hpass =>
    cases h
    exact patience_lt_of_answer hpass ha
  | case2 d d'' hpass _ ih =>
    refine (ih h).trans ?_
    have hlt := length_lt_of_pass hpass
    simp only [patience]
    split <;> split <;> omega

/-- Asks for records until there is none, and goes on after complaints: what has come of it, and the
decoder afterwards. -/
def drain (d : Decoder) : List (Except Failure Bytes) × Decoder :=
  match h : d.next with
  | (.record record, d') =>
    have := patience_lt_of_next h (by simp)
    (.ok record :: d'.drain.1, d'.drain.2)
  | (.overlong, d') =>
    have := patience_lt_of_next h (by simp)
    (.error (.lineTooLong d'.limit) :: d'.drain.1, d'.drain.2)
  | (.nothing, d') => ([], d')
termination_by d.patience

/-- A decoder that has a record. -/
lemma drain_of_record {d d' : Decoder} {record : Bytes} (h : d.next = (.record record, d')) :
    d.drain = (.ok record :: d'.drain.1, d'.drain.2) := by
  rw [drain]
  split <;> simp_all

/-- A decoder that complains. -/
lemma drain_of_overlong {d d' : Decoder} (h : d.next = (.overlong, d')) :
    d.drain = (.error (.lineTooLong d'.limit) :: d'.drain.1, d'.drain.2) := by
  rw [drain]
  split <;> simp_all

/-- A decoder that has nothing yet. -/
lemma drain_of_nothing {d d' : Decoder} (h : d.next = (.nothing, d')) : d.drain = ([], d') := by
  rw [drain]
  split <;> simp_all

/-- What comes of a decoder depends on its next answer only. -/
lemma drain_congr {d d' : Decoder} (h : d.next = d'.next) : d.drain = d'.drain := by
  cases hnext : d'.next with
  | mk answer rest =>
    rw [hnext] at h
    cases answer with
    | record record => rw [drain_of_record h, drain_of_record hnext]
    | overlong => rw [drain_of_overlong h, drain_of_overlong hnext]
    | nothing => rw [drain_of_nothing h, drain_of_nothing hnext]

/-- Feeds a decoder with one chunk after the other, and asks for all records after each of them. -/
def consume (d : Decoder) : List Bytes → List (Except Failure Bytes) × Decoder
  | [] => ([], d)
  | chunk :: chunks =>
    ((d.feed chunk).drain.1 ++ ((d.feed chunk).drain.2.consume chunks).1,
      ((d.feed chunk).drain.2.consume chunks).2)

/-! ### Reading the stream at once -/

/-- What a line is as a record. -/
def judge (limit : Nat) (line : Bytes) : Except Failure Bytes :=
  if line.length ≤ limit then .ok line else .error (.lineTooLong limit)

/-- What the lines of a stream are as records, with a complaint behind them if the remnant is over-long
already. -/
def outcomes (limit : Nat) (bytes : Bytes) : List (Except Failure Bytes) :=
  (lines bytes).map (judge limit) ++
    if limit < (remnant bytes).length then [.error (.lineTooLong limit)] else []

/-- What is kept of a stream: the remnant, unless it is over-long. -/
def residue (limit : Nat) (bytes : Bytes) : Bytes :=
  if (remnant bytes).length ≤ limit then remnant bytes else []

variable {limit : Nat}

/-- No more is kept than one record can take. -/
lemma length_residue_le (limit : Nat) (bytes : Bytes) : (residue limit bytes).length ≤ limit := by
  unfold residue
  split
  · assumption
  · simp

/-- The first line comes out first. -/
lemma outcomes_encode_append {line : Bytes} (hline : newline ∉ line) (bytes : Bytes) :
    outcomes limit (encode line ++ bytes) = judge limit line :: outcomes limit bytes := by
  rw [outcomes, lines_encode_append hline, remnant_encode_append hline]
  rfl

/-- Without a newline there is at most a complaint. -/
lemma outcomes_of_not_mem {bytes : Bytes} (h : newline ∉ bytes) :
    outcomes limit bytes = if limit < bytes.length then [.error (.lineTooLong limit)] else [] := by
  rw [outcomes, lines_of_not_mem h, remnant_of_not_mem h]
  rfl

/-- A line whose beginning is over-long is over-long. -/
lemma judge_append {bytes : Bytes} (h : limit < bytes.length) (more : Bytes) :
    judge limit (bytes ++ more) = .error (.lineTooLong limit) := by
  rw [judge, if_neg (by rw [List.length_append]; omega)]

/-- A decoder that has been asked for all records of a stream. -/
structure Drained (limit : Nat) (bytes : Bytes) (d : Decoder) : Prop where
  limit_eq : d.limit = limit
  sound : d.Sound
  /-- It is dropping the remnant if that is over-long. -/
  isDiscarding_eq : d.isDiscarding = decide (limit < (remnant bytes).length)
  buffer_eq : d.buffer = residue limit bytes

/-- Only the remnant of a stream matters to what a decoder is like behind it. -/
lemma Drained.congr {bytes bytes' : Bytes} {d : Decoder} (h : Drained limit bytes d)
    (hremnant : remnant bytes' = remnant bytes) : Drained limit bytes' d where
  limit_eq := h.limit_eq
  sound := h.sound
  isDiscarding_eq := by rw [hremnant, h.isDiscarding_eq]
  buffer_eq := by rw [residue, hremnant, h.buffer_eq, residue]

/-- A decoder that has not been fed. -/
lemma drained_nil (limit : Nat) : Drained limit [] { limit } where
  limit_eq := rfl
  sound := sound_of_searched_eq_zero rfl
  isDiscarding_eq := rfl
  buffer_eq := rfl

/-- A decoder that drops nothing gives what the lines of its buffer say. -/
lemma drain_of_sound {d : Decoder} (h : d.Sound) (hd : d.isDiscarding = false) :
    d.drain.1 = outcomes d.limit d.buffer ∧ Drained d.limit d.buffer d.drain.2 := by
  induction hn : d.buffer.length using Nat.strong_induction_on generalizing d with
  | _ n ih =>
    subst hn
    rcases next_spec h hd with ⟨line, rest, hbuffer, hline, hle, hnext⟩ | ⟨hclean, hlong, hnext⟩ |
      ⟨hclean, hshort, hnext⟩
    · let d' : Decoder := { d with buffer := rest, searched := 0 }
      obtain ⟨hrest, hdrained⟩ := ih d'.buffer.length (length_lt_of_next hnext) (d := d')
        (sound_of_searched_eq_zero rfl) hd rfl
      rw [drain_of_record hnext, hbuffer, outcomes_encode_append hline, judge, if_pos hle]
      exact ⟨congrArg _ hrest, hdrained.congr (remnant_encode_append hline rest)⟩
    · let d' : Decoder := { d with isDiscarding := true }
      have hsound : d'.Sound := ⟨h.searched_le_length, h.searched_le_limit, h.newline_not_mem⟩
      rw [drain_of_overlong hnext]
      by_cases hmem : newline ∈ d.buffer
      · -- The rest of the line is dropped, and the decoder goes on behind it.
        obtain ⟨line, rest, hbuffer, hline⟩ := exists_eq_encode_append hmem
        have hover : d.limit < line.length := lt_length_of_not_mem_take (hbuffer ▸ hclean)
        let d'' : Decoder := { limit := d.limit, buffer := rest }
        have hdrain : d'.drain = d''.drain :=
          drain_congr (next_of_encode_append hsound rfl hline hbuffer)
        obtain ⟨hrest, hdrained⟩ := ih d''.buffer.length
          (by simp only [d'', hbuffer, encode, List.length_append]; omega) (d := d'')
          (sound_of_searched_eq_zero rfl) rfl rfl
        rw [hdrain, hbuffer, outcomes_encode_append hline, judge, if_neg (by omega)]
        exact ⟨congrArg _ hrest, hdrained.congr (remnant_encode_append hline rest)⟩
      · have hdrain : d'.drain = ([], { d' with buffer := [], searched := 0 }) :=
          drain_of_nothing (next_of_not_mem rfl hmem)
        rw [hdrain, outcomes_of_not_mem hmem, if_pos hlong]
        refine ⟨rfl, rfl, sound_of_searched_eq_zero rfl, ?_, ?_⟩
        · simp [remnant_of_not_mem hmem, hlong, d']
        · simp [residue, remnant_of_not_mem hmem, hlong]
    · rw [drain_of_nothing hnext, outcomes_of_not_mem hclean, if_neg (by omega)]
      refine ⟨rfl, rfl, ⟨le_refl _, Nat.le_succ_of_le hshort, by simpa using hclean⟩, ?_, ?_⟩
      · simp [hd, remnant_of_not_mem hclean, hshort]
      · simp [residue, remnant_of_not_mem hclean, hshort]

/-- One more chunk adds what it adds to the stream. -/
lemma Drained.drain_feed {bytes : Bytes} {d : Decoder} (h : Drained limit bytes d) (chunk : Bytes) :
    outcomes limit (bytes ++ chunk) = outcomes limit bytes ++ (d.feed chunk).drain.1 ∧
      Drained limit (bytes ++ chunk) (d.feed chunk).drain.2 := by
  obtain ⟨rfl, hsound, hdiscarding, hbuffer⟩ := h
  have hfeed := hsound.feed chunk
  have hremnant := remnant_append bytes chunk
  by_cases hlong : d.limit < (remnant bytes).length
  · -- The decoder is dropping the remnant, and goes on to do so up to the next newline.
    have hd : (d.feed chunk).isDiscarding = true := by simpa [feed, hlong] using hdiscarding
    have hchunk : (d.feed chunk).buffer = chunk := by
      simp [feed, hbuffer, residue, Nat.not_le.mpr hlong]
    by_cases hmem : newline ∈ chunk
    · obtain ⟨line, rest, rfl, hline⟩ := exists_eq_encode_append hmem
      let d' : Decoder := { limit := d.limit, buffer := rest }
      have hdrain : (d.feed (encode line ++ rest)).drain = d'.drain :=
        drain_congr (next_of_encode_append hfeed hd hline hchunk)
      obtain ⟨hrest, hdrained⟩ := drain_of_sound (d := d') (sound_of_searched_eq_zero rfl) rfl
      have hwhole : newline ∉ remnant bytes ++ line := by
        rw [List.mem_append, not_or]
        exact ⟨newline_not_mem_remnant bytes, hline⟩
      have hfirst : remnant bytes ++ (encode line ++ rest) = encode (remnant bytes ++ line) ++ rest := by
        simp [encode]
      rw [hfirst, remnant_encode_append hwhole] at hremnant
      rw [hdrain, hrest]
      refine ⟨?_, hdrained.congr hremnant⟩
      rw [outcomes, outcomes, outcomes, hremnant, lines_append, hfirst, lines_encode_append hwhole,
        if_pos hlong, List.map_append, List.map_cons, judge_append hlong]
      simp [d']
    · have hdrain := drain_of_nothing (next_of_not_mem hd (by rwa [hchunk]))
      have hwhole : newline ∉ remnant bytes ++ chunk := by
        rw [List.mem_append, not_or]
        exact ⟨newline_not_mem_remnant bytes, hmem⟩
      have hover : d.limit < (remnant (bytes ++ chunk)).length := by
        rw [hremnant, remnant_of_not_mem hwhole, List.length_append]
        omega
      rw [hdrain]
      refine ⟨?_, rfl, sound_of_searched_eq_zero rfl, ?_, ?_⟩
      · rw [outcomes, outcomes, lines_append, lines_of_not_mem hwhole, if_pos hover, if_pos hlong]
        simp
      · simpa [hover] using hd
      · simp [residue, Nat.not_le.mpr hover]
  · have hd : (d.feed chunk).isDiscarding = false := by simpa [feed, hlong] using hdiscarding
    have hchunk : (d.feed chunk).buffer = remnant bytes ++ chunk := by
      simp [feed, hbuffer, residue, Nat.not_lt.mp hlong]
    obtain ⟨hdrain, hdrained⟩ := drain_of_sound hfeed hd
    rw [hchunk] at hdrain hdrained
    rw [hdrain]
    refine ⟨?_, hdrained.congr hremnant⟩
    rw [outcomes, outcomes, outcomes, hremnant, lines_append, if_neg hlong, List.append_nil,
      List.map_append, List.append_assoc]
    rfl

/-- A course of chunks adds what they add to the stream. -/
lemma Drained.consume {bytes : Bytes} {d : Decoder} (h : Drained limit bytes d) (chunks : List Bytes) :
    outcomes limit (bytes ++ chunks.flatten) = outcomes limit bytes ++ (d.consume chunks).1 ∧
      Drained limit (bytes ++ chunks.flatten) (d.consume chunks).2 := by
  induction chunks generalizing bytes d with
  | nil => simpa [Decoder.consume] using h
  | cons chunk chunks ih =>
    obtain ⟨hchunk, hdrained⟩ := h.drain_feed chunk
    obtain ⟨hrest, hdrained⟩ := ih hdrained
    rw [hchunk] at hrest
    rw [List.flatten_cons, ← List.append_assoc, hrest, List.append_assoc]
    exact ⟨rfl, hdrained⟩

/-- At the end of the stream, a decoder that has been asked for everything has nothing to add, and keeps
nothing. -/
lemma Drained.finish {bytes : Bytes} {d : Decoder} (h : Drained limit bytes d) :
    d.finish.1 = .nothing ∧ d.finish.2.buffer = [] := by
  obtain ⟨rfl, hsound, hdiscarding, hbuffer⟩ := h
  by_cases hlong : d.limit < (remnant bytes).length
  · have hempty : d.buffer = [] := by simp [hbuffer, residue, Nat.not_le.mpr hlong]
    have hnext := next_of_not_mem (d := d) (by simpa [hlong] using hdiscarding) (by simp [hempty])
    simp [Decoder.finish, hnext]
  · have hkept : d.buffer = remnant bytes := by simp [hbuffer, residue, Nat.not_lt.mp hlong]
    have hclean : newline ∉ d.buffer := hkept ▸ newline_not_mem_remnant bytes
    rcases finish_spec hsound (by simpa [hlong] using hdiscarding) with
      ⟨line, rest, hline, -⟩ | ⟨-, hover, -⟩ | ⟨-, -, hfinish⟩
    · exact absurd (by simp [hline, encode]) hclean
    · exact absurd (hkept ▸ hover) hlong
    · rw [hfinish]
      exact ⟨rfl, rfl⟩

/-- However a stream is cut into chunks, a decoder that is fed with them and asked for all records
after each of them gives one outcome for each line of the whole stream, in order, and one complaint
more if the remnant is over-long.  Behind the last chunk it keeps the remnant, or nothing if that is
over-long, and so never more than one record can take.  At the end of the stream it has nothing to add
and keeps nothing. -/
theorem consume_eq_outcomes (limit : Nat) (chunks : List Bytes) :
    let bytes := chunks.flatten
    let d := (({ limit } : Decoder).consume chunks).2
    (({ limit } : Decoder).consume chunks).1 = outcomes limit bytes ∧
      d.buffer = residue limit bytes ∧ d.buffer.length ≤ limit ∧
      d.finish.1 = .nothing ∧ d.finish.2.buffer = [] := by
  intro bytes d
  obtain ⟨hall, hdrained⟩ := (drained_nil limit).consume chunks
  have hnil : outcomes limit [] = [] := by simp [outcomes, lines, remnant, cut]
  rw [hnil, List.nil_append, List.nil_append] at hall
  obtain ⟨hnothing, hempty⟩ := hdrained.finish
  have hbuffer : d.buffer = residue limit bytes := hdrained.buffer_eq
  refine ⟨hall.symm, hbuffer, ?_, hnothing, hempty⟩
  rw [hbuffer]
  exact length_residue_le limit bytes

/-- A line of four bytes, cut behind its third one, is over-long where three are allowed. -/
example :
    let chunks := [Bytes.ofText "ab\nabc", Bytes.ofText "d\n\nx", Bytes.ofText "yz!"]
    let read := ({ limit := 3 } : Decoder).consume chunks
    read.1.map Except.toOption = [some (Bytes.ofText "ab"), none, some [], none] ∧
      read.2.buffer = [] := by
  decide +kernel

/-! ### Writing records and reading them back -/

/-- A stream that comes in these chunks is read as exactly these records, without a complaint.  Nothing is
left then, and nothing more comes at the end of the stream. -/
structure Yields (limit : Nat) (chunks records : List Bytes) : Prop where
  read_eq : (({ limit } : Decoder).consume chunks).1 = records.map .ok
  buffer_eq : (({ limit } : Decoder).consume chunks).2.buffer = []
  finish_eq : (({ limit } : Decoder).consume chunks).2.finish.1 = .nothing

/-- A stream that has no remnant, and no line beyond the limit, is read line by line. -/
lemma yields_of_remnant_eq_nil {chunks : List Bytes} (hremnant : remnant chunks.flatten = [])
    (hlines : ∀ line ∈ lines chunks.flatten, line.length ≤ limit) :
    Yields limit chunks (lines chunks.flatten) := by
  obtain ⟨hread, hdrained⟩ := (drained_nil limit).consume chunks
  have hnil : outcomes limit [] = [] := by simp [outcomes, lines, remnant, cut]
  have hjudge : (lines chunks.flatten).map (judge limit) = (lines chunks.flatten).map .ok :=
    List.map_congr_left fun line hline => if_pos (hlines line hline)
  have hshort : ¬ limit < (remnant chunks.flatten).length := by simp [hremnant]
  rw [List.nil_append] at hread hdrained
  rw [hnil, List.nil_append] at hread
  refine ⟨?_, ?_, hdrained.finish.1⟩
  · rw [← hread, outcomes, hjudge, if_neg hshort, List.append_nil]
  · rw [hdrained.buffer_eq, residue, hremnant, ite_self]

/-- A stream that is empty or ends in a newline has no remnant. -/
lemma remnant_eq_nil {bytes : Bytes} (h : bytes = [] ∨ bytes.getLast? = some newline) :
    remnant bytes = [] := by
  rcases h with rfl | hlast
  · rfl
  · by_contra hne
    -- The last byte of the stream would be the last one of the remnant.
    have hwhole := flatMap_encode_lines_append_remnant bytes
    rw [← hwhole, List.getLast?_append_of_ne_nil _ hne] at hlast
    exact newline_not_mem_remnant bytes (List.mem_of_getLast? hlast)

/-- Writing and reading records are inverse to each other, however the stream is cut into chunks.
Records without newlines, within the limit, that are written one after the other are read back one by one.
And if a stream is empty or ends in a newline and has no line beyond the limit, writing the records that
it is read as makes the same stream again. -/
theorem yields_flatMap_encode (limit : Nat) :
    (∀ records : List Bytes, (∀ record ∈ records, newline ∉ record ∧ record.length ≤ limit) →
      ∀ chunks : List Bytes, chunks.flatten = records.flatMap encode → Yields limit chunks records) ∧
    (∀ bytes : Bytes, (bytes = [] ∨ bytes.getLast? = some newline) →
      (∀ line ∈ lines bytes, line.length ≤ limit) →
        ∀ chunks : List Bytes, chunks.flatten = bytes →
          ∃ records : List Bytes, Yields limit chunks records ∧ records.flatMap encode = bytes) := by
  constructor
  · intro records hrecords chunks hchunks
    have hclean : ∀ record ∈ records, newline ∉ record := fun record hmem => (hrecords record hmem).1
    have hnil : lines [] = [] ∧ remnant [] = [] := ⟨rfl, rfl⟩
    have hlines : lines chunks.flatten = records := by
      have hback := lines_flatMap_encode_append hclean []
      rwa [List.append_nil, hnil.1, List.append_nil, ← hchunks] at hback
    have hremnant : remnant chunks.flatten = [] := by
      have hback := remnant_flatMap_encode_append hclean []
      rwa [List.append_nil, hnil.2, ← hchunks] at hback
    have hshort : ∀ line ∈ lines chunks.flatten, line.length ≤ limit := by
      rw [hlines]
      exact fun record hmem => (hrecords record hmem).2
    have hread := yields_of_remnant_eq_nil hremnant hshort
    rwa [hlines] at hread
  · rintro bytes hend hlines chunks rfl
    have hremnant := remnant_eq_nil hend
    have hwhole := flatMap_encode_lines_append_remnant chunks.flatten
    rw [hremnant, List.append_nil] at hwhole
    exact ⟨lines chunks.flatten, yields_of_remnant_eq_nil hremnant hlines, hwhole⟩

/-- A record at the limit, an empty one and one that is no text, cut inside two of them. -/
theorem yields_of_three_records :
    let records := [Bytes.ofText "abc", [], [0xff, 13]]
    let chunks := [Bytes.ofText "ab", Bytes.ofText "c\n\n", [0xff], [], [13, 10]]
    ((∀ record ∈ records, newline ∉ record ∧ record.length ≤ 3) ∧
        chunks.flatten = records.flatMap encode ∧ Yields 3 chunks records) ∧
      (chunks.flatten.getLast? = some newline ∧ (∀ line ∈ lines chunks.flatten, line.length ≤ 3) ∧
        ∃ back : List Bytes, Yields 3 chunks back ∧ back.flatMap encode = chunks.flatten) := by
  intro records chunks
  obtain ⟨hwritten, hread⟩ := yields_flatMap_encode 3
  have hrecords : ∀ record ∈ records, newline ∉ record ∧ record.length ≤ 3 := by decide
  have hchunks : chunks.flatten = records.flatMap encode := by decide
  have hlast : chunks.flatten.getLast? = some newline := by decide
  have hlines : ∀ line ∈ lines chunks.flatten, line.length ≤ 3 := by decide
  exact ⟨⟨hrecords, hchunks, hwritten records hrecords chunks hchunks⟩,
    ⟨hlast, hlines, hread chunks.flatten (.inr hlast) hlines chunks rfl⟩⟩

end Traversal.Record.Decoder
