import Mathlib
import Traversal.Proofs.Forwarding
import Traversal.Proofs.PathText
import Traversal.Proofs.TerminalCourse
import Traversal.Rehearsal.Terminal

/-!
# The output of a terminal

Whoever passes messages on, and whoever waits for the session, hand their lines to the writer, which writes
them in the order in which they come.  `Terminal.Printed` is the invariant: what has been written, and what
has yet to be written, are the messages of the session, and behind them the last line once the outcome is
known.  It is kept because a session that is over passes nothing on.

`output_of_outcome` says what follows for the whole output, which is complete when the program ends.
-/

namespace Traversal

namespace Session

variable {s s' : Session} {outcome : Outcome}

/-- A session that is over remains so, with the same outcome. -/
lemma outcome_of_step {turn : Turn} (h : s.step turn = some s') (houtcome : s.outcome? = some outcome) :
    s'.outcome? = some outcome := by
  have hnot : s.stage ≠ .ready := by
    intro hready
    simp [outcome?, hready] at houtcome
  have hsame : s'.controller = s.controller → s'.outcome? = some outcome := by
    intro hcontroller
    rw [← houtcome, outcome?, outcome?, stage_of_step h hnot, hcontroller]
  cases moves_of_step h with
  | world hmeet =>
    rcases meet_eq hmeet with ⟨a, rfl, rfl⟩ | ⟨rfl, rfl⟩ | ⟨-, _, _, _, _, _, _, _, _, _, rfl, -⟩
    · refine hsame ?_
      split <;> rfl
    · -- Nobody goes away who knows the outcome.
      simp [meet, isAwaited, houtcome] at hmeet
    · exact hsame rfl
  | router _ hrouter =>
    obtain ⟨_, _, _, _, _, _, _, rfl, -⟩ := stepRouter_eq hrouter
    exact hsame rfl
  | relay _ hrelay =>
    obtain ⟨_, _, _, _, _, _, rfl, -⟩ := stepRelay_eq hrelay
    exact hsame rfl
  | pump _ hpump =>
    obtain ⟨_, _, _, _, rfl, -⟩ := stepPump_eq hpump
    exact hsame rfl
  | watcher _ hwatcher =>
    obtain ⟨_, _, _, _, _, rfl, -⟩ := stepWatcher_eq hwatcher
    exact hsame rfl
  | controller hstarted hcontroller =>
    simp [stepController, Controller.step, returned_of_outcome hstarted houtcome] at hcontroller

/-- What holds of a session that is over with an outcome and has passed on these messages. -/
structure Over (outcome : Outcome) (sent : List Bytes) (s : Session) : Prop where
  outcome_eq : s.outcome? = some outcome
  sent_eq : s.sent = sent
  done_of_started : s.stage = .started → s.router.phase = .done

/-- When a session is over, its router is done. -/
lemma Faithful.over {limit : Nat} {arrived : List Arrival} (h : Faithful limit arrived s)
    (houtcome : s.outcome? = some outcome) : Over outcome s.sent s where
  outcome_eq := houtcome
  sent_eq := rfl
  done_of_started := by
    intro hstage
    exact (areTasksDone_iff.mp (h.done_of_outcome hstage houtcome)).1

/-- A session that is over passes nothing on. -/
lemma Over.step {sent : List Bytes} (h : Over outcome sent s) {turn : Turn}
    (hstep : s.step turn = some s') : Over outcome sent s' := by
  have houtcome := outcome_of_step hstep h.outcome_eq
  have hnot : s.stage ≠ .ready := by
    intro hready
    simpa [outcome?, hready] using h.outcome_eq
  have hstage := stage_of_step hstep hnot
  by_cases hstarted : s.stage = .started
  · obtain ⟨hrouter, hsent⟩ := sent_of_step hstep (h.done_of_started hstarted)
    exact ⟨houtcome, hsent.trans h.sent_eq, fun _ => by rw [hrouter, h.done_of_started hstarted]⟩
  · refine ⟨houtcome, ?_, fun hstarted' => absurd (hstage.symm.trans hstarted') hstarted⟩
    cases moves_of_step hstep with
    | world hmeet =>
      rw [← h.sent_eq]
      rcases meet_eq hmeet with ⟨a, rfl, rfl⟩ | ⟨rfl, rfl⟩ | ⟨-, _, _, _, _, _, _, _, _, _, rfl, -⟩
      · split <;> rfl
      · rfl
      · rfl
    | router hstage' | relay hstage' | pump hstage' | watcher hstage' | controller hstage' =>
      exact absurd hstage' hstarted

end Session

namespace Terminal

open Bytes Record Arrival

variable {t t' : Terminal}

/-! ### What is handed to the writer -/

/-- The messages that are passed on in a turn. -/
lemma sent_eq_append_news {s s' : Session} {turn : Session.Turn} (h : s.step turn = some s') :
    s'.sent = s.sent ++ news s s' := by
  rcases Session.sentRev_of_step h with hsame | ⟨message, hcons⟩
  · simp [Session.sent, news, hsame]
  · simp [Session.sent, news, hcons]

/-- What holds of the lines of a terminal after any course. -/
structure Printed (t : Terminal) : Prop where
  /-- No line gets lost, and none overtakes another. -/
  lines_eq : t.writtenRev.reverse ++ t.outbox = t.session.sent ++ t.outcome?.elim [] lastLine
  of_outcome : ∀ outcome, t.outcome? = some outcome → t.session.outcome? = some outcome

/-- At the start there are no lines. -/
lemma printed_create (name : String) (config : Config) : Printed (create name config) where
  lines_eq := rfl
  of_outcome := by simp [create]

/-- A turn keeps the lines in order. -/
lemma Printed.step (h : Printed t)
    (hover : ∀ outcome, t.session.outcome? = some outcome → t.session.Over outcome t.session.sent)
    {turn : Turn} (hstep : t.step turn = some t') : Printed t' := by
  have hlines := h.lines_eq
  cases attends_of_step hstep with
  | session hpossible hsession ht =>
    have hsent := sent_eq_append_news hsession
    rw [ht]
    refine ⟨?_, fun outcome houtcome => Session.outcome_of_step hsession (h.of_outcome outcome houtcome)⟩
    simp only
    cases houtcome : t.outcome? with
    | none =>
      rw [houtcome, Option.elim_none, List.append_nil] at hlines
      rw [Option.elim_none, List.append_nil, ← List.append_assoc, hlines, hsent]
    | some outcome =>
      have hafter := (hover outcome (h.of_outcome outcome houtcome)).step hsession
      have hnews : news t.session t'.session = [] := by
        rw [hafter.sent_eq] at hsent
        exact List.self_eq_append_right.mp hsent
      rw [houtcome] at hlines
      rw [hnews, List.append_nil, hlines, hafter.sent_eq]
  | reader hreads =>
    obtain ⟨⟨houtbox, hwritten, hlearnt⟩, -, hsession⟩ := hreads.session_cases
    have hsame : t'.session.sent = t.session.sent ∧ t'.session.outcome? = t.session.outcome? := by
      rcases hsession with ⟨hs, -⟩ | ⟨line, hs, -⟩ | ⟨hs, -⟩ <;> rw [hs] <;> exact ⟨rfl, rfl⟩
    refine ⟨?_, ?_⟩
    · rw [houtbox, hwritten, hlearnt, hsame.1]
      exact hlines
    · rw [hlearnt, hsame.2]
      exact h.of_outcome
  | writer line rest houtbox ht =>
    rw [ht]
    rw [houtbox] at hlines
    exact ⟨by simpa using hlines, h.of_outcome⟩
  | conclude outcome hbefore houtcome ht =>
    rw [ht]
    rw [hbefore, Option.elim_none, List.append_nil] at hlines
    refine ⟨?_, fun o ho => ?_⟩
    · simp only [Option.elim_some]
      rw [← List.append_assoc, hlines]
    · cases ho
      exact houtcome
  | input ht =>
    rw [ht]
    exact ⟨hlines, h.of_outcome⟩

/-- The session of a terminal is faithful to what arrives on the engine's standard output. -/
lemma faithful_of_run {name : String} {config : Config} {turns : List Turn}
    (hrun : (create name config).run turns = some t) :
    t.session.Faithful config.maxLineBytes (arrivals turns) := by
  obtain ⟨course, hcourse, harrivals⟩ := session_of_run hrun
  exact harrivals ▸ Session.faithful_run hcourse

/-- The lines are in order after every course. -/
theorem printed_run {name : String} {config : Config} {turns : List Turn}
    (hrun : (create name config).run turns = some t) : Printed t := by
  induction turns using List.reverseRecOn generalizing t with
  | nil =>
    cases hrun
    exact printed_create name config
  | append_singleton turns turn ih =>
    rw [run_concat] at hrun
    obtain ⟨t₀, hrun, hstep⟩ := Option.bind_eq_some_iff.mp hrun
    exact (ih hrun).step (fun _ houtcome => (faithful_of_run hrun).over houtcome) hstep

/-- What has been written is a part of the messages of the session and the last line behind them. -/
lemma Printed.output_prefix (h : Printed t) {outcome : Outcome}
    (houtcome : t.session.outcome? = some outcome) :
    t.output <+: t.session.sent.flatMap encode ++ (lastLine outcome).flatMap encode := by
  have htail : t.outcome?.elim [] lastLine <+: lastLine outcome := by
    cases hlearnt : t.outcome? with
    | none => exact List.nil_prefix
    | some learnt =>
      rw [Option.some.inj ((h.of_outcome learnt hlearnt).symm.trans houtcome)]
      exact List.prefix_rfl
  have hwritten : t.writtenRev.reverse <+: t.session.sent ++ lastLine outcome :=
    (h.lines_eq ▸ List.prefix_append _ _).trans ((List.prefix_append_right_inj _).mpr htail)
  rw [output, ← List.flatMap_def, ← List.flatMap_append]
  exact hwritten.flatMap encode

/-- When the program ends, all of it has been written. -/
lemma Printed.output_eq (h : Printed t) {outcome learnt : Outcome}
    (houtcome : t.session.outcome? = some outcome) (hresult : t.result? = some learnt) :
    learnt = outcome ∧
      t.output = t.session.sent.flatMap encode ++ (lastLine outcome).flatMap encode := by
  obtain ⟨houtbox, hknown⟩ : t.outbox = [] ∧ t.outcome? = some learnt := by
    simpa only [result?, Option.ite_none_right_eq_some, List.isEmpty_iff] using hresult
  obtain rfl := Option.some.inj ((h.of_outcome learnt hknown).symm.trans houtcome)
  have hlines := h.lines_eq
  rw [houtbox, hknown, List.append_nil, Option.elim_some] at hlines
  exact ⟨rfl, by rw [output, ← List.flatMap_def, hlines, List.flatMap_append]⟩

/-! ### The rest of the output -/

/-- Whether the writer has the turn, or whoever waits for the session. -/
def Turn.isOutput : Turn → Bool
  | writer => true
  | conclude => true
  | _ => false

/-- A bound on the turns that the output still takes once the session is over. -/
def due (t : Terminal) : Nat :=
  t.outbox.length + if t.outcome?.isNone then 2 else 0

/-- Once the session is over, each turn of the output is one of those that are due, and no other turn adds
to them. -/
lemma due_of_step {outcome : Outcome} {sent : List Bytes} (hover : t.session.Over outcome sent)
    {turn : Turn} (hstep : t.step turn = some t') :
    turn.isOutput.toNat + t'.due ≤ t.due := by
  cases attends_of_step hstep with
  | session hpossible hsession ht =>
    have hnews : news t.session t'.session = [] := by
      have hsent := sent_eq_append_news hsession
      rw [(hover.step hsession).sent_eq, hover.sent_eq] at hsent
      exact List.self_eq_append_right.mp hsent
    rw [ht]
    simp [due, hnews, Turn.isOutput]
  | reader hreads =>
    obtain ⟨⟨houtbox, -, hlearnt⟩, -⟩ := hreads.session_cases
    simp [due, houtbox, hlearnt, Turn.isOutput]
  | writer line rest houtbox ht =>
    rw [ht]
    simp only [due, houtbox, Turn.isOutput, Bool.toNat_true, List.length_cons]
    omega
  | conclude outcome hbefore houtcome ht =>
    have hlast : (lastLine outcome).length ≤ 1 := by cases outcome <;> simp [lastLine]
    rw [ht]
    simp only [due, hbefore, Turn.isOutput, Bool.toNat_true, List.length_append,
      Option.isNone_none, Option.isNone_some, if_true, Bool.false_eq_true, if_false]
    omega
  | input ht =>
    rw [ht]
    simp [due, Turn.isOutput]

/-- Once the session is over, the turns of the output are bounded, in whatever course. -/
lemma due_of_run {outcome : Outcome} {sent : List Bytes} (hmanned : Manned t)
    (hover : t.session.Over outcome sent) {more : List Turn} (hmore : t.run more = some t') :
    t'.session.Over outcome sent ∧ more.countP Turn.isOutput + t'.due ≤ t.due := by
  have hall : (Manned t' ∧ t'.session.Over outcome sent) ∧
      more.countP Turn.isOutput + t'.due ≤ t.due + (more.map fun _ => 0).sum := by
    refine countP_le_of_foldlM (P := fun t => Manned t ∧ t.session.Over outcome sent) ?_ hmore
      ⟨hmanned, hover⟩
    rintro turn - t t' ⟨hmanned, hover⟩ hstep
    obtain ⟨course, hcourse, -⟩ := session_of_step hmanned hstep
    have hover' := Session.run_induction (fun _ _ _ h hturn => h.step hturn) hcourse hover
    exact ⟨⟨hmanned.step hstep, hover'⟩, due_of_step hover hstep⟩
  obtain ⟨⟨-, hover'⟩, hbound⟩ := hall
  exact ⟨hover', by simpa using hbound⟩

/-- While the output is not complete, somebody has to do with it and can do it. -/
lemma output_proceeds {outcome : Outcome} (houtcome : t.session.outcome? = some outcome)
    (hresult : t.result? = none) : (t.step .writer).isSome = true ∨ (t.step .conclude).isSome = true := by
  cases houtbox : t.outbox with
  | cons line rest =>
    left
    simp [step, stepWriter, houtbox]
  | nil =>
    right
    have hbefore : t.outcome? = none := by simpa [result?, houtbox] using hresult
    simp [step, conclude, hbefore, houtcome]

/-- The report of the program has the whole output, and its exit code tells whether there is a path. -/
lemma report_of_result {outcome : Outcome} (r : TerminalRehearsal)
    (hresult : r.terminal.result? = some outcome) (wantsDebug : Bool) :
    (r.report wantsDebug).stdout = r.terminal.output ∧
      ((r.report wantsDebug).code = 0 ↔ ∃ path, outcome = .connected path) := by
  unfold TerminalRehearsal.report
  cases outcome with
  | connected path => simp [hresult]
  | failed failure => simp [hresult]

/-- When the session of a terminal is over, its messages are lines of the engine's standard output, from the
first one on.  However the terminal goes on from there, its output comes to an end within a bound, nothing
overtakes anything on the way, and when the program ends the output is one line for each message, in order,
and behind them the JSON text of the path if there is one.  That text is one line, and is read back as the
path; and the program succeeds if there is a path, and only then. -/
theorem output_of_outcome (name : String) (config : Config) (turns : List Turn) (t : Terminal)
    (outcome : Outcome) (hrun : (create name config).run turns = some t)
    (houtcome : t.session.outcome? = some outcome) :
    let forwarded := t.session.sent.flatMap encode
    let last := (lastLine outcome).flatMap encode
    (t.session.sent <+: lines (readable (arrivals turns)) ∧ forwarded <+: readable (arrivals turns)) ∧
    (∀ path, outcome = .connected path →
      last = encode path.encode ∧ newline ∉ path.encode ∧ readResult path.encode = .ok path) ∧
    ∀ more t', t.run more = some t' →
      t'.output <+: forwarded ++ last ∧
      more.countP Turn.isOutput + t'.due ≤ t.due ∧
      (t'.result? = none → (t'.step .writer).isSome = true ∨ (t'.step .conclude).isSome = true) ∧
      ∀ learnt, t'.result? = some learnt → learnt = outcome ∧ t'.output = forwarded ++ last ∧
        ∀ r : TerminalRehearsal, r.terminal = t' → ∀ wantsDebug,
          (r.report wantsDebug).stdout = t'.output ∧
            ((r.report wantsDebug).code = 0 ↔ ∃ path, outcome = .connected path) := by
  intro forwarded last
  have hfaithful := faithful_of_run hrun
  have hsent : t.session.sent <+: lines (readable (arrivals turns)) :=
    hfaithful.follows.sent_prefix.trans (List.takeWhile_prefix _)
  refine ⟨⟨hsent, ?_⟩, ?_, fun more t' hmore => ?_⟩
  · have hwhole := flatMap_encode_lines_append_remnant (readable (arrivals turns))
    exact (hsent.flatMap encode).trans ⟨_, hwhole⟩
  · rintro path rfl
    refine ⟨by simp [last, lastLine], FiveTuple.newline_not_mem_encode path, ?_⟩
    rw [readResult, FiveTuple.decode_encode]
    rfl
  · have hall : (create name config).run (turns ++ more) = some t' := by
      rw [run_append, hrun, Option.bind_some, hmore]
    have hmanned := ((manned_create name config).run hrun).1
    obtain ⟨hover, hbound⟩ := due_of_run hmanned (hfaithful.over houtcome) hmore
    have hprinted := printed_run hall
    have hforwarded : forwarded = t'.session.sent.flatMap encode := by rw [hover.sent_eq]
    rw [hforwarded]
    refine ⟨hprinted.output_prefix hover.outcome_eq, hbound, output_proceeds hover.outcome_eq,
      fun learnt hresult => ?_⟩
    obtain ⟨rfl, houtput⟩ := hprinted.output_eq hover.outcome_eq hresult
    refine ⟨rfl, houtput, ?_⟩
    rintro r rfl wantsDebug
    exact report_of_result r hresult wantsDebug

/-- A path that comes in two pieces behind a message.  The writer has its turn between the other tasks, and
once more when the path is known; a line of input comes in while the session is running. -/
theorem output_of_split_path :
    let config : Config := { binary := .path "engine", maxLineBytes := 24 }
    let arrival (text : String) : Session.Turn := .world (.stdout (.data (Bytes.ofText text)))
    let early : List (List Session.Turn) :=
      [[.world (.start none), arrival "offer\n[\"udp\",\"a:1\"", .controller], List.replicate 6 .router]
    let late : List (List Session.Turn) :=
      [[.controller, arrival ",\"5-tuple\"]\nlate\n", .controller, .controller],
        List.replicate 6 .router, List.replicate 3 .controller, List.replicate 5 .relay,
        [.world (.exit (.exited 0)), .controller], List.replicate 5 (.watcher true),
        List.replicate 3 .pump, [.controller, .controller]]
    let turns : List Turn :=
      early.flatten.map .session ++ [.writer, .input (.data (Bytes.ofText "answer\n")), .reader, .reader] ++
        late.flatten.map .session
    ∃ t t', (create "" config).run turns = some t ∧
      t.run [.conclude, .writer] = some t' ∧
      t'.output = Bytes.ofText
        "offer\n\x7b\"proto\":\"udp\",\"local\":\"a:1\",\"remote\":\"5-tuple\"\x7d\n" ∧
      ∀ r : TerminalRehearsal, r.terminal = t' → (r.report false).code = 0 := by
  intro config arrival early late turns
  have hend : ((create "" config).run turns).any (fun t =>
      t.session.outcome? = some (.connected ⟨.udp, "a:1", "5-tuple"⟩) &&
        t.session.sent = [Bytes.ofText "offer"] &&
        (t.run [.conclude, .writer]).any fun t' =>
          t'.result? = some (.connected ⟨.udp, "a:1", "5-tuple"⟩)) = true := by
    decide +kernel
  simp only [Option.any_eq_true, Bool.and_eq_true, decide_eq_true_eq] at hend
  obtain ⟨t, hrun, ⟨houtcome, hsent⟩, t', hmore, hresult⟩ := hend
  obtain ⟨-, hlast, hall⟩ := output_of_outcome "" config turns t _ hrun houtcome
  obtain ⟨-, -, -, hcomplete⟩ := hall _ t' hmore
  obtain ⟨-, houtput, hreport⟩ := hcomplete _ hresult
  refine ⟨t, t', hrun, hmore, ?_, fun r hr => ?_⟩
  · rw [houtput, hsent, (hlast _ rfl).1]
    decide +kernel
  · exact (hreport r hr false).2.mpr ⟨_, rfl⟩

end Terminal
end Traversal
