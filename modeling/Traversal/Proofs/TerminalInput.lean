import Mathlib
import Traversal.Proofs.Conveyance
import Traversal.Proofs.PumpWork
import Traversal.Proofs.TerminalOutput

/-!
# The input of a terminal

The lines of a terminal's input that are to reach the engine are those before the first one that is too long
(`Bytes.admitted`).  `Terminal.Conveys` is the invariant that says how far they have come: the reader has
submitted some of them, from the first one on, all of these but the last one are in the engine's standard
input, and `Session.Place` says where the last one is.  The reader has the rest of the input before it, unless
it has stopped, and then it is known why.

From this follow the two halves of `written_of_input`.  Whatever happens, what has been written to the engine
is a part of these lines, from the first byte on.  And while nothing disturbs the session, the reader or the
pump can go on until all of them have been written, in a bounded number of steps.
-/

namespace Traversal

open Record

/-! ### The lines that are to reach the engine -/

/-- The lines before the first one that is longer than a limit. -/
def Bytes.admitted (limit : Nat) (bytes : Bytes) : List Bytes :=
  (lines bytes).takeWhile (·.length ≤ limit)

namespace Bytes

/-- More bytes only add lines. -/
lemma admitted_mono {limit : Nat} {bytes more : Bytes} (h : bytes <+: more) :
    admitted limit bytes <+: admitted limit more := by
  obtain ⟨rest, rfl⟩ := h
  exact takeWhile_lines_append _ bytes rest

/-- The lines are a part of the bytes, from the first one on. -/
lemma flatMap_encode_admitted_prefix (limit : Nat) (bytes : Bytes) :
    (admitted limit bytes).flatMap encode <+: bytes :=
  ((List.takeWhile_prefix _).flatMap encode).trans ⟨_, flatMap_encode_lines_append_remnant bytes⟩

/-- The lines behind others that are not too long. -/
lemma admitted_flatMap_encode_append {limit : Nat} {records : List Bytes}
    (h : ∀ record ∈ records, newline ∉ record ∧ record.length ≤ limit) (bytes : Bytes) :
    admitted limit (records.flatMap encode ++ bytes) = records ++ admitted limit bytes := by
  rw [admitted, lines_flatMap_encode_append fun record hrecord => (h record hrecord).1]
  exact List.takeWhile_append_of_pos fun record hrecord => by simpa using (h record hrecord).2

/-- There is no line without a newline. -/
lemma admitted_of_not_mem {limit : Nat} {bytes : Bytes} (h : newline ∉ bytes) : admitted limit bytes = [] := by
  rw [admitted, lines_of_not_mem h, List.takeWhile_nil]

/-- If no newline comes within the limit, there is no line before the first one that is too long. -/
lemma admitted_of_overlong {limit : Nat} {bytes : Bytes} (hnewline : newline ∉ bytes.take (limit + 1))
    (hlt : limit < bytes.length) : admitted limit bytes = [] := by
  rcases lines_of_overlong hnewline hlt with ⟨line, rest, hlines, hlong⟩ | ⟨hlines, -⟩
  · rw [admitted, hlines, List.takeWhile_cons_of_neg (by simpa using hlong)]
  · rw [admitted, hlines, List.takeWhile_nil]

end Bytes

/-- What arrives adds to what has arrived, and no more than that. -/
lemma Source.size_arrive_le (s : Source) (a : Arrival) :
    (s.arrive a).size ≤ s.size + ({ arrivals := [a] } : Source).size := by
  have happend : ∀ arrivals, ({ arrivals := arrivals ++ [a] } : Source).size =
      ({ arrivals := arrivals } : Source).size + ({ arrivals := [a] } : Source).size := by
    intro arrivals
    induction arrivals with
    | nil => simp [size]
    | cons b rest ih =>
      unfold size at ih ⊢
      rw [List.cons_append, List.foldr_cons, List.foldr_cons, ih]
      cases b <;> simp only [Nat.add_assoc]
  unfold arrive
  split
  · exact Nat.le_add_right _ _
  · exact (happend s.arrivals).le

namespace Terminal

open Bytes Arrival

variable {t t' : Terminal} {arrived : List Arrival} {submitted earlier : List Bytes} {last? : Option Bytes}

/-! ### What the reader has before it -/

/-- What has arrived are the lines that have been submitted, and behind them what the reader has before
it. -/
structure Gathers (arrived : List Arrival) (submitted : List Bytes) (t : Terminal) : Prop where
  readable_eq : readable arrived =
    submitted.flatMap encode ++ (t.decoder.buffer ++ readable t.input.arrivals)
  ending_eq : ending? arrived = ending? t.input.arrivals
  of_submitted : ∀ line ∈ submitted, newline ∉ line ∧ line.length ≤ lineLimit
  sound : t.decoder.Sound
  limit_eq : t.decoder.limit = lineLimit
  keeps : t.decoder.isDiscarding = false
  of_end : t.sawEnd = true → ∃ rest, t.input.arrivals = .eof :: rest

/-- Whatever else arrives, there are no more lines to submit. -/
def Exhausted (arrived : List Arrival) (submitted : List Bytes) : Prop :=
  ∀ more, admitted lineLimit (readable (arrived ++ more)) = submitted

/-- At the start nothing has arrived. -/
lemma gathers_create (name : String) (config : Config) : Gathers [] [] (create name config) where
  readable_eq := rfl
  ending_eq := rfl
  of_submitted := by simp
  sound := Decoder.sound_of_searched_eq_zero rfl
  limit_eq := rfl
  keeps := rfl
  of_end := by simp [create]

/-- It only matters what the reader looks at. -/
lemma Gathers.congr (h : Gathers arrived submitted t) (hdecoder : t'.decoder = t.decoder)
    (hinput : t'.input = t.input) (hsaw : t'.sawEnd = t.sawEnd) : Gathers arrived submitted t' where
  readable_eq := by rw [hdecoder, hinput, h.readable_eq]
  ending_eq := by rw [hinput, h.ending_eq]
  of_submitted := h.of_submitted
  sound := hdecoder ▸ h.sound
  limit_eq := hdecoder ▸ h.limit_eq
  keeps := hdecoder ▸ h.keeps
  of_end := by
    rw [hsaw, hinput]
    exact h.of_end

/-- What arrives comes behind all that the reader has before it. -/
lemma Gathers.arrive (h : Gathers arrived submitted t) (a : Arrival) :
    Gathers (arrived ++ [a]) submitted { t with input := t.input.arrive a } := by
  obtain ⟨hreadable, hending⟩ :=
    readable_concat (by rw [h.readable_eq, List.append_assoc]) h.ending_eq a
  refine { h with readable_eq := ?_, ending_eq := hending, of_end := fun hsaw => ?_ }
  · rw [hreadable, List.append_assoc]
  · obtain ⟨rest, hrest⟩ := h.of_end hsaw
    exact eof_arrive hrest a

/-- What has been submitted are some of the lines that are to reach the engine, from the first one on. -/
lemma Gathers.submitted_prefix (h : Gathers arrived submitted t) :
    submitted <+: admitted lineLimit (readable arrived) := by
  rw [h.readable_eq, admitted_flatMap_encode_append h.of_submitted]
  exact List.prefix_append _ _

/-- When nothing more can be read, the lines are complete. -/
lemma Gathers.exhausted (h : Gathers arrived submitted t) {e : StreamEnd}
    (hending : ending? t.input.arrivals = some e) (hreadable : readable t.input.arrivals = [])
    (hclean : newline ∉ t.decoder.buffer) : Exhausted arrived submitted := by
  intro more
  rw [readable_append_of_ending?_eq_some (h.ending_eq.trans hending), h.readable_eq, hreadable,
    List.append_nil, admitted_flatMap_encode_append h.of_submitted, admitted_of_not_mem hclean,
    List.append_nil]

/-- What the reader finds when it looks for the next line. -/
lemma Gathers.found_spec (h : Gathers arrived submitted t) :
    (∃ line rest, t.decoder.buffer = encode line ++ rest ∧ newline ∉ line ∧ line.length ≤ lineLimit ∧
        t.found = (.record line, { t.decoder with buffer := rest, searched := 0 })) ∨
      (newline ∉ t.decoder.buffer.take (lineLimit + 1) ∧ lineLimit < t.decoder.buffer.length ∧
        ∃ decoder, t.found = (.overlong, decoder)) ∨
      (newline ∉ t.decoder.buffer ∧ t.decoder.buffer.length ≤ lineLimit ∧
        ∃ decoder, t.found = (.nothing, decoder) ∧
          (t.sawEnd = false → decoder = { t.decoder with searched := t.decoder.buffer.length })) := by
  rw [← h.limit_eq, found]
  by_cases hsaw : t.sawEnd = true
  · rw [if_pos hsaw]
    rcases Decoder.finish_spec h.sound h.keeps with hline | ⟨hclean, hlong, hfound⟩ |
      ⟨hclean, hshort, hfound⟩
    · exact .inl hline
    · exact .inr (.inl ⟨hclean, hlong, _, hfound⟩)
    · exact .inr (.inr ⟨hclean, hshort, _, hfound, fun hnot => by simp [hsaw] at hnot⟩)
  · rw [if_neg hsaw]
    rcases Decoder.next_spec h.sound h.keeps with hline | ⟨hclean, hlong, hfound⟩ |
      ⟨hclean, hshort, hfound⟩
    · exact .inl hline
    · exact .inr (.inl ⟨hclean, hlong, _, hfound⟩)
    · exact .inr (.inr ⟨hclean, hshort, _, hfound, fun _ => rfl⟩)

variable {decoder : Decoder}

/-- A line that is found leaves the buffer, and is the next one to be submitted. -/
lemma Gathers.of_record (h : Gathers arrived submitted t) {line : Bytes}
    (hfound : t.found = (.record line, decoder)) :
    t.decoder.buffer = encode line ++ decoder.buffer ∧
      Gathers arrived (submitted ++ [line]) { t with decoder } := by
  rcases h.found_spec with ⟨line', rest, hbuffer, hline, hle, hfound'⟩ | ⟨-, -, _, hfound'⟩ |
    ⟨-, -, _, hfound', -⟩ <;> rw [hfound] at hfound' <;> cases hfound'
  refine ⟨hbuffer, { h with readable_eq := ?_, of_submitted := ?_, sound := ?_ }⟩
  · rw [h.readable_eq, hbuffer]
    simp
  · intro record hrecord
    rcases List.mem_append.mp hrecord with hold | hnew
    · exact h.of_submitted record hold
    · rw [List.mem_singleton.mp hnew]
      exact ⟨hline, hle⟩
  · exact Decoder.sound_of_searched_eq_zero rfl

/-- After a line that is too long there are no more lines to submit. -/
lemma Gathers.of_overlong (h : Gathers arrived submitted t) (hfound : t.found = (.overlong, decoder)) :
    Exhausted arrived submitted := by
  rcases h.found_spec with ⟨_, _, -, -, -, hfound'⟩ | ⟨hclean, hlong, -⟩ | ⟨-, -, _, hfound', -⟩
  · rw [hfound] at hfound'
    cases hfound'
  · intro more
    -- No newline can come within the limit any more, because so much has already arrived.
    obtain ⟨rest, hrest⟩ := readable_prefix_append arrived more
    rw [← hrest, h.readable_eq, List.append_assoc, List.append_assoc,
      admitted_flatMap_encode_append h.of_submitted, admitted_of_overlong, List.append_nil]
    · rwa [List.take_append_of_le_length (by omega)]
    · rw [List.length_append]
      omega
  · rw [hfound] at hfound'
    cases hfound'

/-- When nothing is found there is no newline in the buffer, and as long as the input has not ended the buffer
stays as it is. -/
lemma Gathers.of_nothing (h : Gathers arrived submitted t) (hfound : t.found = (.nothing, decoder)) :
    newline ∉ t.decoder.buffer ∧ (t.sawEnd = false →
      decoder.buffer = t.decoder.buffer ∧ Gathers arrived submitted { t with decoder }) := by
  rcases h.found_spec with ⟨_, _, -, -, -, hfound'⟩ | ⟨-, -, _, hfound'⟩ |
    ⟨hclean, hshort, _, hfound', hdecoder⟩ <;> rw [hfound] at hfound' <;> cases hfound'
  refine ⟨hclean, fun hsaw => ?_⟩
  rw [hdecoder hsaw]
  have hlimit := h.limit_eq
  exact ⟨rfl, { h with sound := ⟨le_rfl, by simp only; omega, by simpa using hclean⟩ }⟩

/-! ### How far the lines have come -/

/-- How far the reader has come. -/
inductive Standing (arrived : List Arrival) (earlier : List Bytes) (t : Terminal) : Option Bytes → Prop
  | reading (hphase : t.phase = .reading) (hgathers : Gathers arrived earlier t) :
      Standing arrived earlier t none
  | awaiting (line : Bytes) (hphase : t.phase = .awaiting earlier.length)
      (hgathers : Gathers arrived (earlier ++ [line]) t) : Standing arrived earlier t (some line)
  | exhausted (hphase : t.phase = .stopped) (hexhausted : Exhausted arrived earlier) :
      Standing arrived earlier t none
  /-- The outcome is known, or a line could not be written. -/
  | halted (last? : Option Bytes) (hphase : t.phase = .stopped)
      (hcause : t.outcome?.isSome = true ∨ ∃ entry ∈ t.session.mailbox.resolved, entry.2 ≠ none) :
      Standing arrived earlier t last?

/-- A reader that looks for a line has heard of all lines before it. -/
lemma Standing.of_reading (h : Standing arrived earlier t last?) (hphase : t.phase = .reading) :
    last? = none ∧ Gathers arrived earlier t := by
  cases h with
  | reading _ hgathers => exact ⟨rfl, hgathers⟩
  | awaiting _ hother _ | exhausted hother _ | halted _ hother _ =>
    rw [hphase] at hother
    cases hother

/-- A reader that waits has not heard of the last line. -/
lemma Standing.of_awaiting (h : Standing arrived earlier t last?) {ticket : Nat}
    (hphase : t.phase = .awaiting ticket) :
    ∃ line, last? = some line ∧ ticket = earlier.length ∧ Gathers arrived (earlier ++ [line]) t := by
  cases h with
  | awaiting line hsame hgathers =>
    rw [hphase] at hsame
    cases hsame
    exact ⟨line, rfl, rfl, hgathers⟩
  | reading hother _ | exhausted hother _ | halted _ hother _ =>
    rw [hphase] at hother
    cases hother

/-- Nothing has happened to the reader. -/
lemma Standing.congr (h : Standing arrived earlier t last?) (hphase : t'.phase = t.phase)
    (hdecoder : t'.decoder = t.decoder) (hinput : t'.input = t.input) (hsaw : t'.sawEnd = t.sawEnd)
    (houtcome : t'.outcome? = t.outcome?)
    (hresolved : t.session.mailbox.resolved ⊆ t'.session.mailbox.resolved) :
    Standing arrived earlier t' last? := by
  cases h with
  | reading hsame hgathers => exact .reading (hphase.trans hsame) (hgathers.congr hdecoder hinput hsaw)
  | awaiting line hsame hgathers =>
    exact .awaiting line (hphase.trans hsame) (hgathers.congr hdecoder hinput hsaw)
  | exhausted hsame hexhausted => exact .exhausted (hphase.trans hsame) hexhausted
  | halted _ hsame hcause =>
    refine .halted _ (hphase.trans hsame) (hcause.imp (fun h => houtcome ▸ h) ?_)
    rintro ⟨entry, hentry, hfailed⟩
    exact ⟨entry, hresolved hentry, hfailed⟩

/-- More has arrived. -/
lemma Standing.arrive (h : Standing arrived earlier t last?) (a : Arrival) :
    Standing (arrived ++ [a]) earlier { t with input := t.input.arrive a } last? := by
  cases h with
  | reading hphase hgathers => exact .reading hphase (hgathers.arrive a)
  | awaiting line hphase hgathers => exact .awaiting line hphase (hgathers.arrive a)
  | exhausted hphase hexhausted =>
    refine .exhausted hphase fun more => ?_
    rw [List.append_assoc]
    exact hexhausted _
  | halted _ hphase hcause => exact .halted _ hphase hcause

/-- How far the lines of the input have come. -/
structure Conveys (arrived : List Arrival) (earlier : List Bytes) (last? : Option Bytes) (t : Terminal) :
    Prop where
  place : t.session.Place earlier last?
  nextTicket_eq : t.session.mailbox.nextTicket = (earlier ++ last?.toList).length
  stopped_of_deaf : t.session.pump.phase = .deaf → t.phase = .stopped
  submitted_prefix : earlier ++ last?.toList <+: admitted lineLimit (readable arrived)
  standing : Standing arrived earlier t last?

/-- At the start there are no lines. -/
lemma conveys_create (name : String) (config : Config) : Conveys [] [] none (create name config) where
  place := .nowhere ⟨rfl, rfl, rfl⟩ ⟨rfl, rfl⟩
  nextTicket_eq := rfl
  stopped_of_deaf := by simp [create, Session.create]
  submitted_prefix := List.nil_prefix
  standing := .reading rfl (gathers_create name config)

/-- A reader that stops leaves the lines where they are. -/
lemma Conveys.stop (h : Conveys arrived earlier last? t)
    (hsession : t'.session = { t.session with mailbox := t.session.mailbox.part })
    (hphase : t'.phase = .stopped) (hstanding : Standing arrived earlier t' last?) :
    Conveys arrived earlier last? t' where
  place := by
    rw [hsession]
    exact h.place.congr rfl rfl rfl rfl rfl
  nextTicket_eq := by
    rw [hsession]
    exact h.nextTicket_eq
  stopped_of_deaf := fun _ => hphase
  submitted_prefix := h.submitted_prefix
  standing := hstanding

/-- A reader that goes on reading leaves the lines where they are. -/
lemma Conveys.read (h : Conveys arrived earlier none t) (hsession : t'.session = t.session)
    (hbefore : t.phase = .reading) (hphase : t'.phase = .reading) (hgathers : Gathers arrived earlier t') :
    Conveys arrived earlier none t' where
  place := hsession ▸ h.place
  nextTicket_eq := hsession ▸ h.nextTicket_eq
  stopped_of_deaf hdeaf := by
    rw [hsession] at hdeaf
    simpa [hbefore] using h.stopped_of_deaf hdeaf
  submitted_prefix := h.submitted_prefix
  standing := .reading hphase hgathers

section Steps

variable {name : String} {capacity : Nat} {answered : List (Nat × Option Failure)}
  (haccounted : t.session.Accounted name capacity answered)
include haccounted

/-- A step of the reader takes the lines further, or leaves them where they are. -/
lemma Conveys.reader (h : Conveys arrived earlier last? t) (hroom : 0 < capacity) (hreads : Reads t t') :
    ∃ earlier' last?', Conveys arrived earlier' last?' t' := by
  cases hreads with
  | line line decoder hphase hfound =>
    obtain ⟨rfl, hgathers⟩ := h.standing.of_reading hphase
    obtain ⟨-, hgathers'⟩ := hgathers.of_record hfound
    have hnext : t.session.mailbox.nextTicket = earlier.length := by simpa using h.nextTicket_eq
    refine ⟨earlier, some line, ?_, ?_, ?_, hgathers'.submitted_prefix, .awaiting line ?_ ?_⟩
    · refine h.place.submit hnext (haccounted.inOrder.capacity_eq ▸ hroom) (fun hdeaf => ?_) line
      simpa [hphase] using h.stopped_of_deaf hdeaf
    · simp only [submit, Option.toList_some, List.length_append, List.length_singleton, ← hnext]
      rcases t.session.mailbox.submit_cases line with ⟨-, hm⟩ | ⟨-, -, hm⟩ | ⟨-, hm⟩ <;> rw [hm]
    · intro hdeaf
      simpa [hphase] using h.stopped_of_deaf hdeaf
    · simp only [submit, hnext]
    · exact hgathers'.congr rfl rfl rfl
  | overlong decoder hphase hfound =>
    obtain ⟨rfl, hgathers⟩ := h.standing.of_reading hphase
    exact ⟨earlier, none, h.stop rfl rfl (.exhausted rfl (hgathers.of_overlong hfound))⟩
  | ended decoder hphase hsaw hfound =>
    obtain ⟨rfl, hgathers⟩ := h.standing.of_reading hphase
    obtain ⟨rest, hrest⟩ := hgathers.of_end hsaw
    refine ⟨earlier, none, h.stop rfl rfl (.exhausted rfl ?_)⟩
    exact hgathers.exhausted (by rw [hrest]; rfl) (by rw [hrest]; rfl) (hgathers.of_nothing hfound).1
  | chunk decoder bytes rest hphase hsaw hfound harrivals =>
    obtain ⟨rfl, hgathers⟩ := h.standing.of_reading hphase
    obtain ⟨hbuffer, hgathers'⟩ := (hgathers.of_nothing hfound).2 hsaw
    refine ⟨earlier, none, h.read rfl hphase hphase
      { hgathers' with
        readable_eq := ?_, ending_eq := ?_, sound := hgathers'.sound.feed bytes, of_end := ?_ }⟩
    · rw [hgathers.readable_eq, harrivals, Decoder.feed, hbuffer, readable, List.append_assoc]
    · rw [hgathers.ending_eq, harrivals, ending?]
    · simp [hsaw]
  | eof decoder rest hphase hsaw hfound harrivals =>
    obtain ⟨rfl, hgathers⟩ := h.standing.of_reading hphase
    obtain ⟨-, hgathers'⟩ := (hgathers.of_nothing hfound).2 hsaw
    exact ⟨earlier, none, h.read rfl hphase hphase { hgathers' with of_end := fun _ => ⟨rest, harrivals⟩ }⟩
  | fault decoder reason rest hphase hsaw hfound harrivals =>
    obtain ⟨rfl, hgathers⟩ := h.standing.of_reading hphase
    refine ⟨earlier, none, h.stop rfl rfl (.exhausted rfl ?_)⟩
    exact hgathers.exhausted (by rw [harrivals]; rfl) (by rw [harrivals]; rfl) (hgathers.of_nothing hfound).1
  | written ticket hphase houtcome =>
    obtain ⟨line, rfl, rfl, hgathers⟩ := h.standing.of_awaiting hphase
    refine ⟨earlier ++ [line], none, h.place.confirm haccounted houtcome, ?_, ?_, ?_,
      .reading rfl (hgathers.congr rfl rfl rfl)⟩
    · simpa using h.nextTicket_eq
    · intro hdeaf
      simpa [hphase] using h.stopped_of_deaf hdeaf
    · simpa using h.submitted_prefix
  | failed ticket failure hphase houtcome =>
    obtain ⟨before, after, hsplit, -⟩ := List.lookup_eq_some_iff.mp houtcome
    refine ⟨earlier, last?, h.stop rfl rfl (.halted last? rfl (.inr ⟨(ticket, some failure), ?_, by simp⟩))⟩
    rw [show t.stop.session.mailbox.resolved = _ from hsplit]
    exact List.mem_append_right _ (List.mem_cons_self ..)

/-- A turn takes the lines further, or leaves them where they are. -/
theorem Conveys.step (h : Conveys arrived earlier last? t) (hroom : 0 < capacity) (hmanned : Manned t)
    {turn : Turn} (hstep : t.step turn = some t') :
    ∃ earlier' last?', Conveys (arrived ++ turn.input?.toList) earlier' last?' t' := by
  cases attends_of_step hstep with
  | session hpossible hsession ht =>
    obtain ⟨hnext, hresolved⟩ := Session.known_of_step hpossible hsession
    have hplace := h.place.step haccounted.honest haccounted.idle_of_unstarted hpossible hsession
    simp only [Turn.input?, Option.toList_none, List.append_nil]
    refine ⟨earlier, last?, hplace, hnext.trans h.nextTicket_eq, fun hdeaf => ?_, h.submitted_prefix, ?_⟩
    · rw [ht]
      rcases Session.deaf_of_step hsession hdeaf with hbefore | hnobody
      · exact h.stopped_of_deaf hbefore
      · -- A reader that has not stopped could still submit messages.
        by_contra hphase
        rw [Manned, hnobody, if_neg hphase] at hmanned
        omega
    · rw [ht]
      exact h.standing.congr rfl rfl rfl rfl rfl hresolved
  | reader hreads =>
    simp only [Turn.input?, Option.toList_none, List.append_nil]
    exact h.reader haccounted hroom hreads
  | writer line rest houtbox ht =>
    simp only [Turn.input?, Option.toList_none, List.append_nil]
    rw [ht]
    exact ⟨earlier, last?, h.place, h.nextTicket_eq, h.stopped_of_deaf, h.submitted_prefix,
      h.standing.congr rfl rfl rfl rfl rfl (List.Subset.refl _)⟩
  | conclude outcome hbefore houtcome ht =>
    simp only [Turn.input?, Option.toList_none, List.append_nil]
    rw [ht]
    exact ⟨earlier, last?, h.place, h.nextTicket_eq, fun _ => rfl, h.submitted_prefix,
      .halted _ rfl (.inl rfl)⟩
  | @input a ht =>
    simp only [Turn.input?, Option.toList_some]
    rw [ht]
    exact ⟨earlier, last?, h.place, h.nextTicket_eq, h.stopped_of_deaf,
      h.submitted_prefix.trans (admitted_mono (readable_prefix_append _ _)), h.standing.arrive a⟩

end Steps

/-- The messages of the session of a terminal are accounted for. -/
lemma accounted_of_run {name : String} {config : Config} {turns : List Turn}
    (hrun : (create name config).run turns = some t) :
    ∃ answered, t.session.Accounted name config.inboundQueueSize answered := by
  obtain ⟨course, hcourse, -⟩ := session_of_run hrun
  exact ⟨_, Session.accounted_run hcourse⟩

/-- The lines have come somewhere after every course. -/
theorem conveys_run {name : String} {config : Config} {turns : List Turn}
    (hrun : (create name config).run turns = some t) :
    ∃ earlier last?, Conveys (inputs turns) earlier last? t := by
  induction turns using List.reverseRecOn generalizing t with
  | nil =>
    cases hrun
    exact ⟨[], none, conveys_create name config⟩
  | append_singleton turns turn ih =>
    rw [run_concat] at hrun
    obtain ⟨t₀, hrun, hstep⟩ := Option.bind_eq_some_iff.mp hrun
    obtain ⟨earlier, last?, hconveys⟩ := ih hrun
    obtain ⟨answered, haccounted⟩ := accounted_of_run hrun
    have hroom : 0 < config.inboundQueueSize := lt_of_lt_of_le Nat.one_pos (le_max_right _ _)
    rw [inputs_concat]
    exact hconveys.step haccounted hroom ((manned_create name config).run hrun).1 hstep

/-! ### Standing still -/

/-- A reader that looks for a line and can do nothing has looked at all that has arrived. -/
lemma waits_of_reading (hphase : t.phase = .reading) (hstep : t.stepReader = none) :
    (∃ decoder, t.found = (.nothing, decoder)) ∧ t.input.arrivals = [] := by
  rcases hfound : t.found with ⟨answer, decoder⟩
  simp only [stepReader, hphase, search,
    show (if t.sawEnd then t.decoder.finish else t.decoder.next) = _ from hfound] at hstep
  cases answer with
  | record line | overlong => cases hstep
  | nothing =>
    refine ⟨⟨decoder, rfl⟩, ?_⟩
    simp only at hstep
    split at hstep
    · cases hstep
    · cases harrivals : t.input.arrivals with
      | nil => rfl
      | cons a rest => cases a <;> simp [take, Source.read, harrivals] at hstep

/-- While a session is running, nobody has learnt its outcome. -/
lemma outcome_of_running {name : String} {config : Config} {turns : List Turn}
    (hrun : (create name config).run turns = some t) (hstage : t.session.stage = .started)
    (hshut : t.session.isShutdown = false) : t.outcome? = none := by
  by_contra hknown
  obtain ⟨outcome, houtcome⟩ := Option.ne_none_iff_exists'.mp hknown
  have hover := (printed_run hrun).of_outcome outcome houtcome
  have hdone := Session.areTasksDone_iff.mp ((faithful_of_run hrun).done_of_outcome hstage hover)
  obtain ⟨course, hcourse, -⟩ := session_of_run hrun
  have hleft := Session.isShutdown_of_leaving hcourse (by simp [Pump.isLeaving, hdone.2.2.1])
  rw [hshut] at hleft
  cases hleft

/-- While nothing disturbs the session, a reader and a pump that can do nothing have conveyed all lines that
have arrived. -/
lemma Conveys.complete (h : Conveys arrived earlier last? t) (hflows : t.session.Flows)
    (hunknown : t.outcome? = none) (hreader : t.stepReader = none)
    (hrest : t.session.pump.phase = .idle ∧ t.session.mailbox.queue = [] ∨ t.session.pump.phase = .deaf) :
    t.session.stdin.written = (admitted lineLimit (readable arrived)).flatMap encode := by
  have hplace := h.place
  cases h.standing with
  | reading hphase hgathers =>
    obtain ⟨⟨decoder, hfound⟩, hinput⟩ := waits_of_reading hphase hreader
    rw [hplace.written_eq, hgathers.readable_eq, hinput, show readable [] = [] from rfl, List.append_nil,
      admitted_flatMap_encode_append hgathers.of_submitted,
      admitted_of_not_mem (hgathers.of_nothing hfound).1, List.append_nil]
  | awaiting line hphase hgathers =>
    -- A pump that rests has answered, so that the reader need not wait.
    obtain ⟨failure?, houtcome⟩ := hplace.known_of_rest hrest
    simp [stepReader, hphase, houtcome] at hreader
  | exhausted hphase hexhausted =>
    have hall := hexhausted []
    rw [List.append_nil] at hall
    rw [hplace.written_eq, hall]
  | halted _ hphase hcause =>
    rcases hcause with hknown | ⟨entry, hentry, hfailed⟩
    · simp [hunknown] at hknown
    · exact absurd (hflows.unfailed entry hentry) hfailed

/-! ### The work that is left -/

/-- Whether the reader has the turn, or the pump. -/
def Turn.isCarrier : Turn → Bool
  | reader => true
  | session .pump => true
  | _ => false

/-- A bound on the steps that the reader takes with what has arrived.  A byte may take eight steps of the pump
and a line thirty-two more, and these are counted here until the line is submitted. -/
def readings (t : Terminal) : Nat :=
  let ahead := (!t.sawEnd).toNat + 48 * (t.decoder.buffer.length + t.input.size)
  match t.phase with
  | .reading => ahead + 1
  | .awaiting _ => ahead + 2
  | .stopped => 0

/-- A bound on the steps that the reader and the pump can take if nothing else happens. -/
def backlog (t : Terminal) : Nat :=
  t.readings + t.session.pumpWork

/-- What a turn adds to the steps of the reader and the pump. -/
def Turn.burden : Turn → Nat
  | input a => 48 * ({ arrivals := [a] } : Source).size
  | session turn => turn.stir
  | _ => 0

/-- A reader that has stopped takes no more steps. -/
lemma readings_of_stopped (h : t.phase = .stopped) : t.readings = 0 := by
  rw [readings, h]

/-- A reader that stops has no more steps before it. -/
lemma backlog_lt_of_stop (hbefore : t.phase ≠ .stopped) (hphase : t'.phase = .stopped)
    (hsession : t'.session = { t.session with mailbox := t.session.mailbox.part }) :
    t'.backlog < t.backlog := by
  have hwork : t'.session.pumpWork = t.session.pumpWork := by
    rw [hsession]
    rfl
  have hpos : 0 < t.readings := by
    unfold readings
    cases hcase : t.phase with
    | reading | awaiting ticket => exact Nat.succ_pos _
    | stopped => exact absurd hcase hbefore
  rw [backlog, backlog, readings_of_stopped hphase, hwork]
  omega

/-- A step of the reader is one of those that are left. -/
lemma backlog_lt_of_reads (hgathers : t.phase = .reading → Gathers arrived submitted t) (h : Reads t t') :
    t'.backlog < t.backlog := by
  cases h with
  | line line decoder hphase hfound =>
    have hbuffer := congrArg List.length ((hgathers hphase).of_record hfound).1
    have hwork := t.session.pumpWork_submit_le line
    rw [encode, List.length_append, List.length_append, List.length_singleton] at hbuffer
    simp only [backlog, readings, submit, hphase]
    omega
  | overlong decoder hphase hfound | ended decoder hphase hsaw hfound
    | fault decoder reason rest hphase hsaw hfound harrivals =>
    exact backlog_lt_of_stop (by simp [hphase]) rfl rfl
  | chunk decoder bytes rest hphase hsaw hfound harrivals =>
    obtain ⟨hbuffer, -⟩ := ((hgathers hphase).of_nothing hfound).2 hsaw
    have hsize : t.input.size = bytes.length + 1 + ({ arrivals := rest } : Source).size := by
      rw [Source.size, harrivals]
      rfl
    simp only [backlog, readings, hphase, hsize, Decoder.feed, hbuffer, List.length_append]
    omega
  | eof decoder rest hphase hsaw hfound harrivals =>
    obtain ⟨hbuffer, -⟩ := ((hgathers hphase).of_nothing hfound).2 hsaw
    simp only [backlog, readings, hphase, hsaw, hbuffer, Bool.not_true, Bool.not_false, Bool.toNat_true,
      Bool.toNat_false]
    omega
  | written ticket hphase houtcome =>
    simp only [backlog, readings, hphase]
    omega
  | failed ticket failure hphase houtcome => exact backlog_lt_of_stop (by simp [hphase]) rfl rfl

/-- A turn of the reader or the pump is one of those that are left, and no other turn adds more to them than
its burden. -/
lemma backlog_of_step (hgathers : t.phase = .reading → Gathers arrived submitted t) {turn : Turn}
    (hstep : t.step turn = some t') :
    turn.isCarrier.toNat + t'.backlog ≤ t.backlog + turn.burden := by
  cases attends_of_step hstep with
  | @session turn hpossible hsession ht =>
    have hwork := Session.pumpWork_of_step hpossible hsession
    have hreadings : t'.readings = t.readings := by
      rw [ht]
      rfl
    have hcarrier : (Turn.session turn).isCarrier.toNat = if turn = .pump then 1 else 0 := by
      cases turn <;> rfl
    simp only [backlog, Turn.burden, hreadings, hcarrier]
    omega
  | reader hreads =>
    have hlt := backlog_lt_of_reads hgathers hreads
    simp only [Turn.isCarrier, Turn.burden, Bool.toNat_true]
    omega
  | writer line rest houtbox ht =>
    rw [ht]
    simp [Turn.isCarrier, backlog, readings]
  | conclude outcome hbefore houtcome ht =>
    rw [ht]
    simp only [Turn.isCarrier, Turn.burden, backlog, readings, Bool.toNat_false]
    omega
  | @input a ht =>
    have hsize := t.input.size_arrive_le a
    rw [ht]
    simp only [Turn.isCarrier, Turn.burden, backlog, readings, Bool.toNat_false]
    cases t.phase <;> simp only <;> omega

/-- The steps of the reader and the pump are bounded, in whatever course. -/
lemma backlog_of_run {name : String} {config : Config} {turns more : List Turn}
    (hrun : (create name config).run turns = some t) (hmore : t.run more = some t') :
    more.countP Turn.isCarrier + t'.backlog ≤ t.backlog + (more.map Turn.burden).sum := by
  refine (countP_le_of_foldlM (P := fun t => ∃ turns, (create name config).run turns = some t) ?_ hmore
    ⟨turns, hrun⟩).2
  rintro turn - t t' ⟨turns, hrun⟩ hstep
  obtain ⟨earlier, last?, hconveys⟩ := conveys_run hrun
  have hrun' : (create name config).run (turns ++ [turn]) = some t' := by
    rw [run_concat, hrun, Option.bind_some, hstep]
  exact ⟨⟨_, hrun'⟩, backlog_of_step (fun hphase => (hconveys.standing.of_reading hphase).2) hstep⟩

/-- However the tasks, the engine, the caller and whoever sends the input take their turns, and in whatever
pieces the input comes: what has been written to the engine is a part, from the first byte on, of the lines of
the input before the first one that is too long, whatever else is still to arrive, and so it is a part of the
input itself.  While nothing disturbs the session, either all of these lines that have arrived have been
written, or the reader or the pump can go on; and the steps that these two can take are bounded by what they
have before them and by what arrives. -/
theorem written_of_input (name : String) (config : Config) (turns : List Turn) (t : Terminal)
    (hrun : (create name config).run turns = some t) :
    (∀ later,
      t.session.stdin.written <+:
        (admitted lineLimit (readable (inputs turns ++ later))).flatMap encode ∧
      (admitted lineLimit (readable (inputs turns ++ later))).flatMap encode <+:
        readable (inputs turns ++ later)) ∧
    (t.session.Flows →
      t.session.stdin.written = (admitted lineLimit (readable (inputs turns))).flatMap encode ∨
        (t.step .reader).isSome = true ∨ (t.step (.session .pump)).isSome = true) ∧
    ∀ more t', t.run more = some t' →
      more.countP Turn.isCarrier + t'.backlog ≤ t.backlog + (more.map Turn.burden).sum := by
  obtain ⟨earlier, last?, hconveys⟩ := conveys_run hrun
  refine ⟨fun later => ⟨?_, flatMap_encode_admitted_prefix _ _⟩, fun hflows => ?_,
    fun more t' hmore => backlog_of_run hrun hmore⟩
  · have hsubmitted := hconveys.submitted_prefix.trans
      (admitted_mono (readable_prefix_append (inputs turns) later))
    exact hconveys.place.written_prefix.trans (hsubmitted.flatMap encode)
  · by_contra hstill
    obtain ⟨hnot, hreader, hpump⟩ := by simpa only [not_or, Option.not_isSome_iff_eq_none] using hstill
    obtain ⟨course, hcourse, -⟩ := session_of_run hrun
    have hmove : t.session.step .pump = none := by simpa [step, stepSession, isPossible] using hpump
    exact hnot (hconveys.complete hflows (outcome_of_running hrun hflows.started hflows.running) hreader
      (hflows.rest_of_step hcourse hmove))

/-- An input of two lines and a fragment comes in two pieces that are not cut at newlines, and the engine takes
two bytes before it makes the pump wait.  When it takes more, both lines are written, and the fragment stays
behind. -/
theorem written_of_slow_engine :
    let config : Config := { binary := .path "engine" }
    let early : List (List Turn) :=
      [[.session (.world (.start none)), .session (.world (.stdin (.budget (some 2)))),
        .input (.data (Bytes.ofText "one\ntw")), .reader, .reader], List.replicate 4 (.session .pump)]
    let late : List (List Turn) :=
      [[.input (.data (Bytes.ofText "o\nrest")), .session (.world (.stdin (.budget none)))],
        List.replicate 4 (.session .pump), List.replicate 3 .reader, List.replicate 5 (.session .pump),
        [.reader]]
    ∃ t t', (create "" config).run early.flatten = some t ∧ t.run late.flatten = some t' ∧
      t.session.stdin.written = Bytes.ofText "on" ∧ t'.session.stdin.written = Bytes.ofText "one\ntwo\n" ∧
      late.flatten.countP Turn.isCarrier + t'.backlog ≤ t.backlog + 48 * 7 + 2 := by
  intro config early late
  have hend : ((create "" config).run early.flatten).any (fun t =>
      t.session.stdin.written = Bytes.ofText "on" && (t.run late.flatten).any fun t' =>
        t'.session.stage = .started && t'.session.isShutdown = false &&
          t'.session.mailbox.resolved.all (fun entry => entry.2 = none) && t'.session.stdin.isReady &&
          (t'.step .reader).isNone && (t'.step (.session .pump)).isNone) = true := by
    decide +kernel
  have hinput : (admitted lineLimit (readable (inputs (early.flatten ++ late.flatten)))).flatMap encode =
      Bytes.ofText "one\ntwo\n" := by
    decide +kernel
  have hburden : (late.flatten.map Turn.burden).sum = 48 * 7 + 2 := by decide +kernel
  simp only [Option.any_eq_true, Bool.and_eq_true, decide_eq_true_eq, List.all_eq_true,
    Option.isNone_iff_eq_none] at hend
  obtain ⟨t, hrun, hwritten, t', hmore, ⟨⟨⟨⟨hstage, hshut⟩, hunfailed⟩, hroom⟩, hreader⟩, hpump⟩ := hend
  have hall : (create "" config).run (early.flatten ++ late.flatten) = some t' := by
    rw [run_append, hrun, Option.bind_some, hmore]
  obtain ⟨-, -, hbound⟩ := written_of_input "" config early.flatten t hrun
  obtain ⟨-, hcomplete, -⟩ := written_of_input "" config (early.flatten ++ late.flatten) t' hall
  refine ⟨t, t', hrun, hmore, hwritten, ?_, ?_⟩
  · rcases hcomplete ⟨hstage, hshut, hunfailed, hroom⟩ with hdone | hmoves | hmoves
    · rw [hdone, hinput]
    · simp [hreader] at hmoves
    · simp [hpump] at hmoves
  · have hle := hbound late.flatten t' hmore
    rw [hburden] at hle
    omega

end Terminal
end Traversal
