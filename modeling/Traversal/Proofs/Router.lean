import Mathlib
import Traversal.Proofs.Decoder
import Traversal.Proofs.Reading

/-!
# A router follows the reading of its stream

`Router.Follows` relates a router to everything that has arrived on its stream and to the messages it has
passed on.  While the router is at work, what it has passed on, its buffer and what is left in the stream
make up the readable bytes; once it has something to report, it has passed on exactly the messages of
the stream and the report is the stream's verdict.

`Follows.step` is the step lemma: whatever a step shows to others keeps the relation, and a result or a
report is the verdict.  `Follows.append` says that further arrivals do no harm.  `rank_of_step` says how
far each kind of step takes a router towards its end.
-/

namespace Traversal.Router

open Bytes Record Arrival

variable {limit : Nat} {arrivals : List Arrival} {sent : List Bytes} {r : Router} {s : Source}

/-! ### Streams with a verdict -/

/-- The stream has a verdict, and these are its messages. -/
structure Concluded (limit : Nat) (arrivals : List Arrival) (sent : List Bytes) (v : Verdict) :
    Prop where
  ne_undecided : v ≠ .undecided
  messages_eq : messages limit (readable arrivals) = sent
  verdict_eq : verdict limit (readable arrivals) (ending? arrivals) = v

/-- Whatever arrives later, the verdict and the messages stay. -/
lemma Concluded.append {v : Verdict} (h : Concluded limit arrivals sent v) (more : List Arrival) :
    Concluded limit (arrivals ++ more) sent v := by
  obtain ⟨hv, hmessages, hverdict⟩ := h
  cases hend : ending? arrivals with
  | some e =>
    rw [hend] at hverdict
    refine ⟨hv, ?_, ?_⟩
    · rw [readable_append_of_ending?_eq_some hend, hmessages]
    · rw [readable_append_of_ending?_eq_some hend, ending?_append, hend]
      exact hverdict
  | none =>
    rw [hend] at hverdict
    obtain ⟨hverdict', hmessages'⟩ := verdict_append (by rwa [hverdict]) (readable more)
      (ending? (arrivals ++ more))
    refine ⟨hv, ?_, ?_⟩
    · rw [readable_append_of_ending?_eq_none hend, hmessages', hmessages]
    · rw [readable_append_of_ending?_eq_none hend, hverdict', hverdict]

/-- What has been passed on stays a part of the messages. -/
lemma prefix_messages_append (h : sent <+: messages limit (readable arrivals))
    (more : List Arrival) : sent <+: messages limit (readable (arrivals ++ more)) := by
  obtain ⟨bytes, hbytes⟩ := readable_prefix_append arrivals more
  rw [← hbytes]
  exact h.trans (messages_append limit _ _)

/-! ### Routers at work -/

/-- A router that looks for the next record of its stream. -/
structure AtWork (limit : Nat) (arrivals : List Arrival) (sent : List Bytes) (r : Router)
    (s : Source) : Prop where
  /-- Nothing has been lost, repeated or moved. -/
  readable_eq :
    readable arrivals = sent.flatMap encode ++ (r.decoder.buffer ++ readable s.arrivals)
  ending?_eq : ending? arrivals = ending? s.arrivals
  plain : ∀ message ∈ sent, newline ∉ message ∧ isPlain limit message = true
  limit_eq : r.decoder.limit = limit
  sound : r.decoder.Sound
  keeps : r.decoder.isDiscarding = false
  /-- If the buffer has been searched, it is a fragment within the limit. -/
  fragment : r.isReadable = false → newline ∉ r.decoder.buffer ∧ r.decoder.buffer.length ≤ limit
  isReadable_of_sawEnd : r.sawEnd = true → r.isReadable = true
  arrivals_of_sawEnd : r.sawEnd = true → ∃ rest, s.arrivals = .eof :: rest

/-- The messages behind those that have been passed on. -/
lemma AtWork.messages_eq (h : AtWork limit arrivals sent r s) :
    messages limit (readable arrivals) =
      sent ++ messages limit (r.decoder.buffer ++ readable s.arrivals) := by
  rw [h.readable_eq, messages_flatMap_encode_append h.plain]

/-- The verdict is that of the bytes that have not been dealt with. -/
lemma AtWork.verdict_eq (h : AtWork limit arrivals sent r s) :
    verdict limit (readable arrivals) (ending? arrivals) =
      verdict limit (r.decoder.buffer ++ readable s.arrivals) (ending? s.arrivals) := by
  rw [h.readable_eq, h.ending?_eq, verdict_flatMap_encode_append h.plain]

/-- If the bytes that have not been dealt with hold no message and have a verdict, so has the stream. -/
lemma AtWork.concluded (h : AtWork limit arrivals sent r s) {v : Verdict} (hv : v ≠ .undecided)
    (hmessages : messages limit (r.decoder.buffer ++ readable s.arrivals) = [])
    (hverdict : verdict limit (r.decoder.buffer ++ readable s.arrivals) (ending? s.arrivals) = v) :
    Concluded limit arrivals sent v :=
  ⟨hv, by rw [h.messages_eq, hmessages, List.append_nil], by rw [h.verdict_eq, hverdict]⟩

/-- A router in relation to the whole of its stream and to the messages that it has passed on. -/
def Follows (limit : Nat) (arrivals : List Arrival) (sent : List Bytes) (r : Router) (s : Source) :
    Prop :=
  match r.phase with
  | .waiting => AtWork limit arrivals sent r s
  | .taking => AtWork limit arrivals sent r s
  | .posting failure? => Concluded limit arrivals sent (.reported failure?)
  | .releasing _ => sent <+: messages limit (readable arrivals)
  | .done => sent <+: messages limit (readable arrivals)

/-- A router that has not begun. -/
lemma follows_start (limit : Nat) : Follows limit [] [] (start limit) {} where
  readable_eq := rfl
  ending?_eq := rfl
  plain := by simp
  limit_eq := rfl
  sound := Decoder.sound_of_searched_eq_zero rfl
  keeps := rfl
  fragment := by simp [start]
  isReadable_of_sawEnd := by simp [start]
  arrivals_of_sawEnd := by simp [start]

/-- Whatever a router does, it passes on messages of the stream in their order. -/
theorem Follows.sent_prefix (h : Follows limit arrivals sent r s) :
    sent <+: messages limit (readable arrivals) := by
  unfold Follows at h
  split at h
  · rw [h.messages_eq]
    exact List.prefix_append _ _
  · rw [h.messages_eq]
    exact List.prefix_append _ _
  · rw [h.messages_eq]
  · exact h
  · exact h

/-! ### Arrivals -/

/-- What arrives for a router at work reaches it. -/
lemma AtWork.arrive (h : AtWork limit arrivals sent r s) (a : Arrival) :
    AtWork limit (arrivals ++ [a]) sent r (s.arrive a) := by
  have hreadable := h.readable_eq
  rw [← List.append_assoc] at hreadable
  obtain ⟨hread, hend⟩ := readable_concat hreadable h.ending?_eq a
  refine
    { h with
      readable_eq := by rw [hread, List.append_assoc]
      ending?_eq := hend
      arrivals_of_sawEnd := fun hsaw => ?_ }
  obtain ⟨rest, hrest⟩ := h.arrivals_of_sawEnd hsaw
  exact eof_arrive hrest a

/-- A router goes on following its stream when something arrives. -/
theorem Follows.arrive (h : Follows limit arrivals sent r s) (a : Arrival) :
    Follows limit (arrivals ++ [a]) sent r (s.arrive a) := by
  unfold Follows at h ⊢
  split at h
  · exact AtWork.arrive h a
  · exact AtWork.arrive h a
  · exact Concluded.append h [a]
  · exact prefix_messages_append h [a]
  · exact prefix_messages_append h [a]

/-! ### Steps -/

/-- What a router shows to others in a step, and how it stands to its stream afterwards. -/
def Move.Follows (limit : Nat) (arrivals : List Arrival) (sent : List Bytes) (m : Move) : Prop :=
  match m.act with
  | .forward message => Router.Follows limit arrivals (sent ++ [message]) m.router m.stdout
  | .deliver t =>
    Concluded limit arrivals sent (.connected t) ∧
      Router.Follows limit arrivals sent m.router m.stdout
  | .post failure? =>
    Concluded limit arrivals sent (.reported failure?) ∧
      Router.Follows limit arrivals sent m.router m.stdout
  | _ => Router.Follows limit arrivals sent m.router m.stdout

/-- Dealing with a record keeps a router in relation to its stream. -/
lemma AtWork.route (h : AtWork limit arrivals sent r s) {line rest : Bytes}
    (hbuffer : r.decoder.buffer = encode line ++ rest) (hline : newline ∉ line)
    (hle : line.length ≤ limit) :
    ({ r with decoder := { r.decoder with buffer := rest, searched := 0 } } : Router).route line s
      |>.Follows limit arrivals sent := by
  unfold Router.route classify
  cases hmarked : FiveTuple.isMarked line with
  | false =>
    have hplain : isPlain limit line = true := by simp [isPlain, hmarked, hle]
    refine
      { h with
        readable_eq := ?_
        plain := ?_
        sound := Decoder.sound_of_searched_eq_zero rfl
        fragment := fun hr => ?_ }
    · rw [h.readable_eq, hbuffer]
      simp
    · intro message hmessage
      rcases List.mem_append.mp hmessage with hold | hnew
      · exact h.plain message hold
      · rw [List.mem_singleton.mp hnew]
        exact ⟨hline, hplain⟩
    · -- A buffer that has been searched holds no line.
      have hnone := (h.fragment hr).1
      rw [hbuffer] at hnone
      exact absurd (by simp [encode]) hnone
  | true =>
    obtain ⟨hmessages, hverdict⟩ := reading_of_marked limit hline hmarked
      (rest ++ readable s.arrivals) (ending? s.arrivals)
    rw [← List.append_assoc, ← hbuffer] at hmessages hverdict
    have hconcluded : Concluded limit arrivals sent (judge limit line) :=
      h.concluded (judge_ne_undecided limit line) hmessages hverdict
    unfold judge at hconcluded
    rw [if_neg (Nat.not_lt.mpr hle)] at hconcluded
    cases hresult : readResult line with
    | ok t =>
      rw [hresult] at hconcluded
      exact ⟨hconcluded, hconcluded.messages_eq ▸ List.prefix_rfl⟩
    | error failure =>
      rw [hresult] at hconcluded
      exact hconcluded

/-- If no newline comes within the limit, the stream is over-long. -/
lemma AtWork.concluded_overlong (h : AtWork limit arrivals sent r s)
    (hclean : newline ∉ r.decoder.buffer.take (limit + 1)) (hlong : limit < r.decoder.buffer.length) :
    Concluded limit arrivals sent (.reported (some (.lineTooLong limit))) := by
  have hfront : newline ∉ (r.decoder.buffer ++ readable s.arrivals).take (limit + 1) := by
    rwa [List.take_append_of_le_length (by omega)]
  obtain ⟨hmessages, hverdict⟩ := reading_of_overlong hfront
    (by rw [List.length_append]; omega) (ending? s.arrivals)
  exact h.concluded (by simp) hmessages hverdict

/-- If a fragment is left and the stream has ended, the end is the verdict. -/
lemma AtWork.concluded_fragment (h : AtWork limit arrivals sent r s)
    (hclean : newline ∉ r.decoder.buffer) (hle : r.decoder.buffer.length ≤ limit)
    (hreadable : readable s.arrivals = []) {e : StreamEnd} (hend : ending? s.arrivals = some e) :
    Concluded limit arrivals sent (conclude (some e)) := by
  obtain ⟨hmessages, hverdict⟩ := reading_of_fragment hclean hle (ending? s.arrivals)
  refine h.concluded (by cases e <;> simp [conclude]) ?_ ?_
  · rw [hreadable, List.append_nil, hmessages]
  · rw [hreadable, List.append_nil, hverdict, hend]

/-- Searching the buffer keeps a router in relation to its stream. -/
lemma AtWork.search (h : AtWork limit arrivals sent r s) :
    (r.search s).Follows limit arrivals sent := by
  unfold Router.search
  by_cases hsaw : r.sawEnd = true
  · obtain ⟨rest, hrest⟩ := h.arrivals_of_sawEnd hsaw
    rw [if_pos hsaw]
    rcases Decoder.finish_spec h.sound h.keeps with ⟨line, rest', hbuffer, hline, hle, hnext⟩ |
      ⟨hclean, hlong, hnext⟩ | ⟨hclean, hshort, hnext⟩
    · rw [hnext]
      exact h.route hbuffer hline (h.limit_eq ▸ hle)
    · rw [h.limit_eq] at hclean hlong
      simp only [hnext, h.limit_eq]
      exact h.concluded_overlong hclean hlong
    · simp only [hnext, if_pos hsaw]
      exact h.concluded_fragment hclean (h.limit_eq ▸ hshort) (by rw [hrest]; rfl)
        (by rw [hrest]; rfl)
  · rw [if_neg hsaw]
    rcases Decoder.next_spec h.sound h.keeps with ⟨line, rest, hbuffer, hline, hle, hnext⟩ |
      ⟨hclean, hlong, hnext⟩ | ⟨hclean, hshort, hnext⟩
    · rw [hnext]
      exact h.route hbuffer hline (h.limit_eq ▸ hle)
    · rw [h.limit_eq] at hclean hlong
      simp only [hnext, h.limit_eq]
      exact h.concluded_overlong hclean hlong
    · simp only [hnext, if_neg hsaw]
      exact
        { h with
          sound := ⟨le_refl _, Nat.le_succ_of_le hshort, by simpa using hclean⟩
          fragment := fun _ => ⟨hclean, h.limit_eq ▸ hshort⟩
          isReadable_of_sawEnd := fun h' => absurd h' hsaw }

/-- Reading from the stream keeps a router in relation to it. -/
lemma AtWork.read (h : AtWork limit arrivals sent r s) (hphase : r.phase = .taking)
    (hr : r.isReadable = false) : (r.read s).Follows limit arrivals sent := by
  obtain ⟨hclean, hshort⟩ := h.fragment hr
  have hsaw : r.sawEnd = false := by
    by_contra hsaw
    have := h.isReadable_of_sawEnd (by simpa using hsaw)
    simp [hr] at this
  unfold Router.read Source.read
  cases harrivals : s.arrivals with
  | nil => exact { h with }
  | cons a rest =>
    cases a with
    | data bytes =>
      have hreadable := h.readable_eq
      have hending := h.ending?_eq
      rw [harrivals] at hreadable hending
      simp only [Move.Follows, Router.Follows, hphase]
      exact
        { h with
          readable_eq := by simpa [Decoder.feed, readable] using hreadable
          ending?_eq := hending
          sound := h.sound.feed bytes
          fragment := by simp
          isReadable_of_sawEnd := by simp
          arrivals_of_sawEnd := by simp [hsaw] }
    | fault reason =>
      exact h.concluded_fragment hclean hshort (by rw [harrivals]; rfl) (by rw [harrivals]; rfl)
    | eof =>
      simp only [hsaw, Bool.false_eq_true, if_false, Move.Follows, Router.Follows, hphase]
      exact
        { h with
          fragment := by simp
          isReadable_of_sawEnd := by simp
          arrivals_of_sawEnd := fun _ => ⟨rest, harrivals⟩ }

/-- Every step of a router keeps it in relation to its stream. -/
theorem Follows.step (h : Follows limit arrivals sent r s) {isShutdown : Bool} {m : Move}
    (hstep : r.step isShutdown s = some m) : m.Follows limit arrivals sent := by
  have hprefix := h.sent_prefix
  unfold Router.step at hstep
  unfold Follows at h
  cases hphase : r.phase with
  | waiting =>
    simp only [hphase] at hstep h
    split at hstep
    · cases hstep
      exact hprefix
    · split at hstep
      · cases hstep
        exact { h with }
      · cases hstep
  | taking =>
    simp only [hphase, Option.some.injEq] at hstep h
    subst hstep
    split
    · exact h.search
    · next hr => exact h.read hphase (by simpa using hr)
  | posting failure? =>
    simp only [hphase, Option.some.injEq] at hstep h
    subst hstep
    exact ⟨h, hprefix⟩
  | releasing hold =>
    simp only [hphase, Option.some.injEq] at hstep
    subst hstep
    cases hold <;> exact hprefix
  | done => simp [hphase] at hstep

/-- A router that is done takes no step. -/
lemma phase_ne_done_of_step {isShutdown : Bool} {m : Move} (h : r.step isShutdown s = some m) :
    r.phase ≠ .done := by
  intro hdone
  simp [Router.step, hdone] at h

/-! ### How far a step goes -/

/-- How far a router has come towards its end. -/
def rank (r : Router) : Nat :=
  match r.phase with
  | .waiting => 0
  | .taking => 0
  | .posting _ => 1
  | .releasing .stdout => 2
  | .releasing .notices => 3
  | .releasing .slot => 4
  | .done => 5

/-- How far a step goes that shows this to others. -/
def Act.spans (act : Act) (isShutdown : Bool) (before after : Nat) : Prop :=
  match act with
  | .inner => before = 0 ∧ (after ≤ 1 ∨ isShutdown = true ∧ after = 2)
  | .forward _ => before = 0 ∧ after = 0
  | .deliver _ => before = 0 ∧ after = 2
  | .post _ => before = 1 ∧ after = 2
  | .release .stdout => before = 2 ∧ after = 3
  | .release .notices => before = 3 ∧ after = 4
  | .release .slot => before = 4 ∧ after = 5

/-- Dealing with a record leads on to the next one, to a report or to the end. -/
lemma rank_of_route (r : Router) (record : Bytes) (s : Source) (isShutdown : Bool) :
    (r.route record s).act.spans isShutdown 0 (r.route record s).router.rank := by
  unfold route
  split <;> simp [Act.spans, rank]

/-- What a step shows to others says where it starts and where it leads. -/
theorem rank_of_step {isShutdown : Bool} {m : Move} (h : r.step isShutdown s = some m) :
    m.act.spans isShutdown r.rank m.router.rank := by
  unfold Router.step at h
  cases hphase : r.phase with
  | waiting =>
    simp only [hphase] at h
    split at h
    · next hshut =>
      cases h
      simp [Act.spans, rank, hphase, hshut]
    · split at h <;> cases h
      simp [Act.spans, rank, hphase]
  | taking =>
    have hrank : r.rank = 0 := by simp [rank, hphase]
    simp only [hphase, Option.some.injEq] at h
    subst h
    rw [hrank]
    split
    · unfold search
      split
      · exact rank_of_route _ _ _ _
      · simp [Act.spans, rank]
      · cases r.sawEnd <;> simp [Act.spans, rank]
    · unfold read
      split
      · simp [Act.spans, rank, hphase]
      · simp [Act.spans, rank]
      · split <;> simp [Act.spans, rank, hphase]
      · simp [Act.spans, rank]
  | posting failure? =>
    simp only [hphase, Option.some.injEq] at h
    subst h
    simp [Act.spans, rank, hphase]
  | releasing hold =>
    simp only [hphase, Option.some.injEq] at h
    subst h
    cases hold <;> simp [Act.spans, rank, hphase, Hold.next]
  | done => simp [hphase] at h

/-- A router that only lets go of things does not mind what arrives, or whether it reaches it. -/
lemma Follows.append_of_rank (h : Follows limit arrivals sent r s) (hr : 2 ≤ r.rank)
    (more : List Arrival) (s' : Source) : Follows limit (arrivals ++ more) sent r s' := by
  unfold Follows at h ⊢
  cases hphase : r.phase with
  | waiting => simp [rank, hphase] at hr
  | taking => simp [rank, hphase] at hr
  | posting failure? => simp [rank, hphase] at hr
  | releasing hold =>
    simp only [hphase] at h
    exact prefix_messages_append h more
  | done =>
    simp only [hphase] at h
    exact prefix_messages_append h more

/-! ### No router runs for ever -/

/-- Searching the buffer takes from the work that is left. -/
lemma work_search_lt (hphase : r.phase = .taking) (hr : r.isReadable = true) (s : Source) :
    (r.search s).router.work (r.search s).stdout < r.work s := by
  have hroute : ∀ (record : Bytes) (d : Decoder), d.buffer.length < r.decoder.buffer.length →
      (({ r with decoder := d } : Router).route record s).router.work
        (({ r with decoder := d } : Router).route record s).stdout < r.work s := by
    intro record d hlt
    unfold route
    split <;> simp only [work, hphase, hr] <;> simp <;> omega
  unfold search
  split
  · next record d heq =>
    refine hroute record d ?_
    split at heq
    · exact Decoder.length_lt_of_finish heq
    · exact Decoder.length_lt_of_next heq
  · simp only [work, hphase, hr]
    simp
    omega
  · next d heq =>
    have hle : d.buffer.length ≤ r.decoder.buffer.length := by
      split at heq
      · exact Decoder.length_le_of_finish heq
      · exact Decoder.length_le_of_next heq
    by_cases hsaw : r.sawEnd = true
    · simp [work, hphase, hr, hsaw]
      omega
    · simp [work, hphase, hr, hsaw]
      omega

/-- Reading from the stream takes from the work that is left. -/
lemma work_read_lt (hphase : r.phase = .taking) (hr : r.isReadable = false) (s : Source) :
    (r.read s).router.work (r.read s).stdout < r.work s := by
  unfold read Source.read
  cases harrivals : s.arrivals with
  | nil => simp [work, hphase, hr, Source.isReady, harrivals]
  | cons a rest =>
    cases a with
    | data bytes =>
      simp [work, hphase, hr, Source.size, harrivals, Decoder.feed]
      omega
    | fault reason => simp [work, hphase, hr]; omega
    | eof =>
      cases hsaw : r.sawEnd
      · simp [work, hphase, hr, hsaw]
      · simp [work, hphase, hr, hsaw]
        omega

/-- Every step takes from the work that is left. -/
theorem work_lt_of_step {isShutdown : Bool} {m : Move} (h : r.step isShutdown s = some m) :
    m.router.work m.stdout < r.work s := by
  unfold Router.step at h
  cases hphase : r.phase with
  | waiting =>
    simp only [hphase] at h
    split at h
    · cases h
      simp only [work, hphase]
      simp
      omega
    · split at h
      · next hready =>
        cases h
        simp [work, hphase, hready]
      · cases h
  | taking =>
    simp only [hphase, Option.some.injEq] at h
    subst h
    split
    · next hr => exact work_search_lt hphase hr s
    · next hr => exact work_read_lt hphase (by simpa using hr) s
  | posting failure? =>
    simp only [hphase, Option.some.injEq] at h
    subst h
    simp [work, hphase]
  | releasing hold =>
    simp only [hphase, Option.some.injEq] at h
    subst h
    cases hold <;> simp [work, hphase, Hold.next]
  | done => simp [hphase] at h

end Traversal.Router
