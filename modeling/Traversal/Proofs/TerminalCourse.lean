import Mathlib
import Traversal.Proofs.Mailbox
import Traversal.Terminal

/-!
# Courses of a terminal

A turn of a terminal belongs to its session, to its reader, to its writer, to whoever waits for the session,
or to whoever sends the input.  `Terminal.Reads` lists what the reader can do in a step, and
`Terminal.Attends` says what each turn leaves of the session.

What holds of every course of a session holds of the session of a terminal as well: the turns of a terminal
are turns of its session, if what the reader does to the mailbox is taken for something that happens around
the session (`session_of_run`).  The reader can only do this because it holds a handle of the mailbox until
it stops, which is what `Terminal.Manned` says.
-/

namespace Traversal

namespace Session

variable {s s' : Session}

/-- What the pump shows does not change who can submit messages. -/
lemma handles_witness (m : Mailbox) (act : Pump.Act) : (m.witness act).handles = m.handles := by
  unfold Mailbox.witness
  split
  · rfl
  · rfl
  · rw [Mailbox.close_eq]
  · rfl

/-- A session gives its own handle away when it is started, and at a terminal no other turn of a session
changes who can submit messages. -/
lemma handles_of_step {turn : Turn} (h : s.step turn = some s')
    (hpossible : Terminal.isPossible turn = true) :
    s'.mailbox.handles = s.mailbox.handles ∧ s'.stage = s.stage ∨
      s.stage = .ready ∧ s'.stage ≠ .ready ∧ s'.mailbox.handles = s.mailbox.handles - 1 := by
  rcases reach_of_step h with ⟨e, rfl, hmeet⟩ | ⟨-, -, hpump⟩ | ⟨-, -, -, hmailbox, hstage⟩
  · cases e with
    | discard | abandon | submit payload | share | part => cases hpossible
    | start failure? =>
      simp only [meet] at hmeet
      split at hmeet
      · next hready =>
        cases failure? <;> cases hmeet <;>
          exact .inr ⟨hready, by simp [forgo, release], by simp [forgo, release, Mailbox.close_eq, Mailbox.part]⟩
      · cases hmeet
    | stdout a | stderr a =>
      cases hmeet
      split <;> exact .inl ⟨rfl, rfl⟩
    | cancel | stdin event | diagnostics event | exit status | elapse duration =>
      cases hmeet
      exact .inl ⟨rfl, rfl⟩
  · obtain ⟨m, -, -, -, hmailbox, hstage, -⟩ := mailbox_of_stepPump hpump
    rw [hmailbox, handles_witness]
    exact .inl ⟨rfl, hstage⟩
  · rw [hmailbox]
    exact .inl ⟨rfl, hstage⟩

/-- At most one message is passed on in a turn. -/
lemma sentRev_of_step {turn : Turn} (h : s.step turn = some s') :
    s'.sentRev = s.sentRev ∨ ∃ message, s'.sentRev = message :: s.sentRev := by
  cases moves_of_step h with
  | world hmeet =>
    rcases meet_eq hmeet with ⟨a, rfl, rfl⟩ | ⟨rfl, rfl⟩ | ⟨-, _, _, _, _, _, _, _, _, _, rfl, -⟩
    · split <;> exact .inl rfl
    · exact .inl rfl
    · exact .inl rfl
  | router _ hrouter =>
    simp only [stepRouter, Option.bind_eq_bind, Option.bind_eq_some_iff] at hrouter
    obtain ⟨⟨router, stdout, act⟩, -, hrouter⟩ := hrouter
    cases act with
    | inner | deliver t =>
      cases hrouter
      exact .inl rfl
    | forward message =>
      cases hrouter
      exact .inr ⟨message, rfl⟩
    | post failure? => rcases post_cases hrouter with rfl | rfl <;> exact .inl rfl
    | release hold =>
      cases hold <;> cases hrouter <;> exact .inl rfl
  | relay _ hrelay =>
    obtain ⟨_, _, _, _, _, _, rfl, -⟩ := stepRelay_eq hrelay
    exact .inl rfl
  | pump _ hpump =>
    obtain ⟨_, _, _, _, rfl, -⟩ := stepPump_eq hpump
    exact .inl rfl
  | watcher _ hwatcher =>
    obtain ⟨_, _, _, _, _, rfl, -⟩ := stepWatcher_eq hwatcher
    exact .inl rfl
  | controller _ hcontroller =>
    obtain ⟨_, -, _, _, _, _, rfl, -⟩ := stepController_eq hcontroller
    exact .inl rfl

end Session

namespace Terminal

variable {t t' : Terminal}

/-! ### Courses -/

/-- What arrives on the engine's standard output in a turn. -/
def Turn.arrival? : Turn → Option Arrival
  | session turn => turn.arrival?
  | _ => none

/-- What arrives on the terminal's input in a turn. -/
def Turn.input? : Turn → Option Arrival
  | input a => some a
  | _ => none

/-- What arrives on the engine's standard output in a course. -/
def arrivals (turns : List Turn) : List Arrival :=
  turns.filterMap Turn.arrival?

/-- What arrives on the terminal's input in a course. -/
def inputs (turns : List Turn) : List Arrival :=
  turns.filterMap Turn.input?

/-- What arrives in a last turn comes behind all that has arrived. -/
lemma arrivals_concat (turns : List Turn) (turn : Turn) :
    arrivals (turns ++ [turn]) = arrivals turns ++ turn.arrival?.toList := by
  unfold arrivals
  rw [List.filterMap_append]
  cases h : turn.arrival? <;> simp [h]

/-- What arrives on the input in a last turn comes behind all that has arrived there. -/
lemma inputs_concat (turns : List Turn) (turn : Turn) :
    inputs (turns ++ [turn]) = inputs turns ++ turn.input?.toList := by
  unfold inputs
  rw [List.filterMap_append]
  cases h : turn.input? <;> simp [h]

/-- A course that goes on. -/
lemma run_append (t : Terminal) (turns more : List Turn) :
    t.run (turns ++ more) = (t.run turns).bind fun t' => t'.run more := by
  rw [run, List.foldlM_append]
  rfl

/-- A course with one turn more. -/
lemma run_concat (t : Terminal) (turns : List Turn) (turn : Turn) :
    t.run (turns ++ [turn]) = (t.run turns).bind fun t' => t'.step turn := by
  rw [run_append]
  simp only [run, List.foldlM_cons, List.foldlM_nil, bind_pure]

/-! ### The reader -/

/-- What the reader finds when it looks for the next line. -/
def found (t : Terminal) : Record.Answer × Record.Decoder :=
  if t.sawEnd then t.decoder.finish else t.decoder.next

/-- What the reader does in a step. -/
inductive Reads (t : Terminal) : Terminal → Prop
  | line (line : Bytes) (decoder : Record.Decoder) (hphase : t.phase = .reading)
      (hfound : t.found = (.record line, decoder)) : Reads t ({ t with decoder }.submit line)
  | overlong (decoder : Record.Decoder) (hphase : t.phase = .reading)
      (hfound : t.found = (.overlong, decoder)) : Reads t { t with decoder }.stop
  /-- There are no more lines. -/
  | ended (decoder : Record.Decoder) (hphase : t.phase = .reading) (hsaw : t.sawEnd = true)
      (hfound : t.found = (.nothing, decoder)) : Reads t { t with decoder }.stop
  | chunk (decoder : Record.Decoder) (bytes : Bytes) (rest : List Arrival) (hphase : t.phase = .reading)
      (hsaw : t.sawEnd = false) (hfound : t.found = (.nothing, decoder))
      (harrivals : t.input.arrivals = .data bytes :: rest) :
      Reads t { t with input := ⟨rest⟩, decoder := decoder.feed bytes }
  | eof (decoder : Record.Decoder) (rest : List Arrival) (hphase : t.phase = .reading)
      (hsaw : t.sawEnd = false) (hfound : t.found = (.nothing, decoder))
      (harrivals : t.input.arrivals = .eof :: rest) : Reads t { t with decoder, sawEnd := true }
  | fault (decoder : Record.Decoder) (reason : IoFault) (rest : List Arrival) (hphase : t.phase = .reading)
      (hsaw : t.sawEnd = false) (hfound : t.found = (.nothing, decoder))
      (harrivals : t.input.arrivals = .fault reason :: rest) :
      Reads t { t with decoder, input := ⟨rest⟩ }.stop
  /-- The last line has been written. -/
  | written (ticket : Nat) (hphase : t.phase = .awaiting ticket)
      (houtcome : t.session.mailbox.outcome? ticket = some none) : Reads t { t with phase := .reading }
  /-- The last line could not be written. -/
  | failed (ticket : Nat) (failure : Failure) (hphase : t.phase = .awaiting ticket)
      (houtcome : t.session.mailbox.outcome? ticket = some (some failure)) : Reads t t.stop

/-- There is nothing else that the reader can do when it takes from the input. -/
lemma reads_of_take (hphase : t.phase = .reading) (hsaw : t.sawEnd = false) {decoder : Record.Decoder}
    (hfound : t.found = (.nothing, decoder)) (h : { t with decoder }.take = some t') : Reads t t' := by
  unfold take Source.read at h
  cases harrivals : t.input.arrivals with
  | nil => simp [harrivals] at h
  | cons a rest =>
    cases a with
    | data bytes =>
      simp only [harrivals, Option.some.injEq] at h
      exact h ▸ .chunk decoder bytes rest hphase hsaw hfound harrivals
    | fault reason =>
      simp only [harrivals, Option.some.injEq] at h
      exact h ▸ .fault decoder reason rest hphase hsaw hfound harrivals
    | eof =>
      simp only [harrivals, Option.some.injEq] at h
      exact h ▸ .eof decoder rest hphase hsaw hfound harrivals

/-- There is nothing else that the reader can do. -/
theorem reads_of_stepReader (h : t.stepReader = some t') : Reads t t' := by
  unfold stepReader at h
  split at h
  · next hphase =>
    rcases hfound : t.found with ⟨answer, decoder⟩
    rw [search, show (if t.sawEnd then t.decoder.finish else t.decoder.next) = _ from hfound] at h
    cases answer with
    | record line =>
      cases h
      exact .line line decoder hphase hfound
    | overlong =>
      cases h
      exact .overlong decoder hphase hfound
    | nothing =>
      simp only at h
      by_cases hsaw : t.sawEnd = true
      · rw [if_pos hsaw] at h
        cases h
        exact .ended decoder hphase hsaw hfound
      · rw [if_neg hsaw] at h
        exact reads_of_take hphase (by simpa using hsaw) hfound h
  · next ticket hphase =>
    obtain ⟨failure?, houtcome, h⟩ := Option.map_eq_some_iff.mp h
    cases failure? with
    | none =>
      cases h
      exact .written ticket hphase houtcome
    | some failure =>
      cases h
      exact .failed ticket failure hphase houtcome
  · cases h

/-- A step of the reader leaves the output alone, and changes the session in one of three ways. -/
lemma Reads.session_cases (h : Reads t t') :
    (t'.outbox = t.outbox ∧ t'.writtenRev = t.writtenRev ∧ t'.outcome? = t.outcome?) ∧
      t.phase ≠ .stopped ∧
      (t'.session = t.session ∧ t'.phase ≠ .stopped ∨
        (∃ line, t'.session = { t.session with mailbox := t.session.mailbox.submit line } ∧
          t'.phase ≠ .stopped) ∨
        t'.session = { t.session with mailbox := t.session.mailbox.part } ∧ t'.phase = .stopped) := by
  cases h with
  | line line decoder hphase hfound =>
    exact ⟨⟨rfl, rfl, rfl⟩, by simp [hphase], .inr (.inl ⟨line, rfl, by simp [submit]⟩)⟩
  | overlong decoder hphase hfound | ended decoder hphase hsaw hfound
    | fault decoder reason rest hphase hsaw hfound harrivals
    | failed ticket failure hphase houtcome =>
    exact ⟨⟨rfl, rfl, rfl⟩, by simp [hphase], .inr (.inr ⟨rfl, rfl⟩)⟩
  | chunk decoder bytes rest hphase hsaw hfound harrivals | eof decoder rest hphase hsaw hfound harrivals =>
    exact ⟨⟨rfl, rfl, rfl⟩, by simp [hphase], .inl ⟨rfl, by simp [hphase]⟩⟩
  | written ticket hphase houtcome =>
    exact ⟨⟨rfl, rfl, rfl⟩, by simp [hphase], .inl ⟨rfl, by simp⟩⟩

/-! ### The session of a terminal -/

/-- A session that has not been started holds a handle of its mailbox, and so does a reader that has not
stopped. -/
def Manned (t : Terminal) : Prop :=
  (if t.session.stage = .ready then 1 else 0) + (if t.phase = .stopped then 0 else 1) ≤
    t.session.mailbox.handles

/-- What a turn leaves of the session. -/
inductive Attends (t t' : Terminal) : Turn → Prop
  | session {turn : Session.Turn} (hpossible : isPossible turn = true)
      (hstep : t.session.step turn = some t'.session)
      (ht : t' = { t with session := t'.session, outbox := t.outbox ++ news t.session t'.session }) :
      Attends t t' (.session turn)
  | reader (h : Reads t t') : Attends t t' .reader
  | writer (line : Bytes) (rest : List Bytes) (houtbox : t.outbox = line :: rest)
      (ht : t' = { t with outbox := rest, writtenRev := line :: t.writtenRev }) : Attends t t' .writer
  | conclude (outcome : Outcome) (hbefore : t.outcome? = none) (houtcome : t.session.outcome? = some outcome)
      (ht : t' = { t with
        outcome? := some outcome
        phase := .stopped
        outbox := t.outbox ++ lastLine outcome }) : Attends t t' .conclude
  | input {a : Arrival} (ht : t' = { t with input := t.input.arrive a }) : Attends t t' (.input a)

/-- Every turn is of one of the kinds. -/
lemma attends_of_step {turn : Turn} (h : t.step turn = some t') : Attends t t' turn := by
  cases turn with
  | session turn =>
    simp only [step, stepSession] at h
    split at h
    · next hpossible =>
      obtain ⟨s, hstep, rfl⟩ := Option.map_eq_some_iff.mp h
      exact .session hpossible hstep rfl
    · cases h
  | reader => exact .reader (reads_of_stepReader h)
  | writer =>
    simp only [step, stepWriter] at h
    split at h
    · next line rest houtbox =>
      cases h
      exact .writer line rest houtbox rfl
    · cases h
  | conclude =>
    simp only [step, conclude] at h
    split at h
    · next outcome hbefore houtcome =>
      cases h
      exact .conclude outcome hbefore houtcome rfl
    · cases h
  | input a =>
    cases h
    exact .input rfl

/-- A terminal is manned at the start. -/
lemma manned_create (name : String) (config : Config) : Manned (create name config) := by
  simp [Manned, create, Session.create, Mailbox.share]

/-- A turn keeps a terminal manned. -/
lemma Manned.step (h : Manned t) {turn : Turn} (hstep : t.step turn = some t') : Manned t' := by
  unfold Manned at h ⊢
  cases attends_of_step hstep with
  | session hpossible hsession ht =>
    rw [ht]
    simp only
    rcases Session.handles_of_step hsession hpossible with ⟨hhandles, hstage⟩ | ⟨hready, hstage, hhandles⟩
    · rw [hhandles, hstage]
      exact h
    · rw [if_pos hready] at h
      rw [if_neg hstage, hhandles]
      omega
  | reader hreads =>
    obtain ⟨-, hbefore, ⟨hsession, hphase⟩ | ⟨line, hsession, hphase⟩ | ⟨hsession, hphase⟩⟩ :=
      hreads.session_cases
    · rw [if_neg hbefore] at h
      rw [hsession, if_neg hphase]
      exact h
    · rw [if_neg hbefore] at h
      rw [hsession, if_neg hphase]
      simp only
      rcases t.session.mailbox.submit_cases line with ⟨-, hm⟩ | ⟨-, -, hm⟩ | ⟨-, hm⟩ <;> rw [hm] <;> exact h
    · rw [if_neg hbefore] at h
      rw [hsession, if_pos hphase]
      simp only [Mailbox.part]
      omega
  | writer line rest houtbox ht =>
    rw [ht]
    exact h
  | conclude outcome hbefore houtcome ht =>
    rw [ht]
    simp only [if_true]
    omega
  | input ht =>
    rw [ht]
    exact h

/-- What a turn of a terminal is for its session: a turn of a task, or something around the session. -/
lemma session_of_step (h : Manned t) {turn : Turn} (hstep : t.step turn = some t') :
    ∃ turns, t.session.run turns = some t'.session ∧ Session.arrivals turns = turn.arrival?.toList := by
  have hsingle : ∀ {s s' : Session} {turn : Session.Turn}, s.step turn = some s' → s.run [turn] = some s' := by
    intro s s' turn hturn
    simp only [Session.run, List.foldlM_cons, List.foldlM_nil, hturn]
    rfl
  cases attends_of_step hstep with
  | @session turn hpossible hsession ht =>
    refine ⟨[turn], hsingle hsession, ?_⟩
    cases harrival : turn.arrival? <;> simp [Session.arrivals, Turn.arrival?, harrival]
  | reader hreads =>
    obtain ⟨-, hbefore, ⟨hsession, hphase⟩ | ⟨line, hsession, hphase⟩ | ⟨hsession, hphase⟩⟩ :=
      hreads.session_cases
    · exact ⟨[], by rw [hsession]; rfl, rfl⟩
    all_goals
      have hhandles : 0 < t.session.mailbox.handles := by
        rw [Manned, if_neg hbefore] at h
        omega
    · refine ⟨[.world (.submit line)], hsingle ?_, rfl⟩
      rw [Session.step, Session.meet, if_pos hhandles, hsession]
    · refine ⟨[.world .part], hsingle ?_, rfl⟩
      rw [Session.step, Session.meet, if_pos hhandles, hsession]
  | writer line rest houtbox ht =>
    exact ⟨[], by rw [ht]; rfl, rfl⟩
  | conclude outcome hbefore houtcome ht =>
    exact ⟨[], by rw [ht]; rfl, rfl⟩
  | input ht =>
    exact ⟨[], by rw [ht]; rfl, rfl⟩

/-- In a course of a terminal, its session takes a course on which the same arrives on the engine's standard
output. -/
theorem Manned.run (h : Manned t) {turns : List Turn} (hrun : t.run turns = some t') :
    Manned t' ∧ ∃ course, t.session.run course = some t'.session ∧
      Session.arrivals course = arrivals turns := by
  induction turns using List.reverseRecOn generalizing t' with
  | nil =>
    cases hrun
    exact ⟨h, [], rfl, rfl⟩
  | append_singleton turns turn ih =>
    rw [run_concat] at hrun
    obtain ⟨t₀, hrun, hstep⟩ := Option.bind_eq_some_iff.mp hrun
    obtain ⟨hmanned, course, hcourse, harrivals⟩ := ih hrun
    obtain ⟨more, hmore, harrivals'⟩ := session_of_step hmanned hstep
    refine ⟨hmanned.step hstep, course ++ more, ?_, ?_⟩
    · rw [Session.run_append, hcourse]
      exact hmore
    · rw [Session.arrivals, List.filterMap_append, arrivals_concat]
      exact congrArg₂ _ harrivals harrivals'

/-- The session of a terminal takes a course of its own, which begins with the handle that the reader
gets. -/
theorem session_of_run {name : String} {config : Config} {turns : List Turn}
    (hrun : (create name config).run turns = some t) :
    ∃ course, (Session.create name config).run (.world .share :: course) = some t.session ∧
      Session.arrivals (.world .share :: course) = arrivals turns := by
  obtain ⟨-, course, hcourse, harrivals⟩ := (manned_create name config).run hrun
  exact ⟨course, hcourse, harrivals⟩

end Terminal
end Traversal
