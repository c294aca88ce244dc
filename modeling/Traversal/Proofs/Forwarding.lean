import Mathlib
import Traversal.Proofs.SessionCourse

/-!
# What a session passes on

However the tasks of a session take their turns, and however the engine's standard output is cut into
pieces: when the session is over, it has passed on the first records of the engine's standard output, in
order and unchanged, and nothing is passed on later.  If it ends with a path, the next record is that
path; if it ends because a record could not be decoded, the next record is the one.
-/

namespace Traversal

namespace Router

open Bytes Record

/-- The verdict that rests on what a record says. -/
def Verdict.ofResult : Except Failure FiveTuple → Verdict
  | .ok t => .connected t
  | .error failure => .reported (some failure)

/-- A verdict tells what the record says that it rests on. -/
lemma Verdict.ofResult_injective : Function.Injective Verdict.ofResult := by
  intro a b h
  cases a <;> cases b <;> cases h <;> rfl

/-- A verdict that is not about an end or a length is that of the first marked line. -/
lemma exists_line_of_verdict {limit : Nat} {bytes : Bytes} {end? : Option StreamEnd} {v : Verdict}
    (h : verdict limit bytes end? = v) (hne : v ≠ .undecided)
    (hdecode : ∀ failure?, v = .reported failure? → ∃ failure, failure? = some failure ∧
      failure.kind = .decode) :
    ∃ line, (lines bytes)[(messages limit bytes).length]? = some line ∧
      FiveTuple.isMarked line = true ∧ v = .ofResult (readResult line) := by
  have hlong : v ≠ .reported (some (.lineTooLong limit)) := by
    intro hv
    obtain ⟨failure, hfailure, hkind⟩ := hdecode _ hv
    cases hfailure
    cases hkind
  have hsplit := List.takeWhile_append_dropWhile (p := isPlain limit) (l := lines bytes)
  unfold verdict at h
  split at h
  · next line rest hdrop =>
    have hnot : isPlain limit line = false := by
      have hhead := List.head?_dropWhile_not (isPlain limit) (lines bytes)
      simpa [hdrop] using hhead
    unfold judge at h
    split at h
    · exact absurd h.symm hlong
    · next hle =>
      refine ⟨line, ?_, ?_, h.symm⟩
      · rw [← hsplit, hdrop, messages, List.getElem?_append_right (le_refl _), Nat.sub_self]
        rfl
      · simpa [isPlain, Nat.not_lt.mp hle] using hnot
  · split at h
    · exact absurd h.symm hlong
    · cases end? with
      | none => exact absurd h.symm hne
      | some e =>
        cases e with
        | eof =>
          obtain ⟨failure, hfailure, -⟩ := hdecode none h.symm
          cases hfailure
        | fault fault =>
          obtain ⟨failure, hfailure, hkind⟩ := hdecode _ h.symm
          cases hfailure
          cases hkind

end Router

namespace Session

open Bytes Record Router Arrival

variable {s s' : Session}

/-- Once the router is done, nothing is passed on. -/
lemma sent_of_step {t : Turn} (hstep : s.step t = some s') (hdone : s.router.phase = .done) :
    s'.router = s.router ∧ s'.sent = s.sent := by
  cases moves_of_step hstep with
  | world h =>
    rcases meet_eq h with ⟨a, rfl, rfl⟩ | ⟨rfl, rfl⟩ | ⟨-, _, _, _, _, _, _, _, _, _, rfl, -⟩
    · split <;> exact ⟨rfl, rfl⟩
    · exact ⟨rfl, rfl⟩
    · exact ⟨rfl, rfl⟩
  | router hstage h => simp [stepRouter, Router.step, hdone] at h
  | relay hstage h =>
    obtain ⟨_, _, _, _, _, _, rfl, -⟩ := stepRelay_eq h
    exact ⟨rfl, rfl⟩
  | pump hstage h =>
    obtain ⟨_, _, _, _, rfl, -⟩ := stepPump_eq h
    exact ⟨rfl, rfl⟩
  | watcher hstage h =>
    obtain ⟨_, _, _, _, _, rfl, -⟩ := stepWatcher_eq h
    exact ⟨rfl, rfl⟩
  | controller hstage h =>
    obtain ⟨_, -, _, _, _, _, rfl, -⟩ := stepController_eq h
    exact ⟨rfl, rfl⟩

/-- Once the router is done, nothing is passed on in any course. -/
lemma sent_of_run {turns : List Turn} (hrun : s.run turns = some s') (hdone : s.router.phase = .done) :
    s'.sent = s.sent := by
  have hkeep : ∀ s₁ t s₂, s₁.router.phase = .done ∧ s₁.sent = s.sent → step s₁ t = some s₂ →
      s₂.router.phase = .done ∧ s₂.sent = s.sent := by
    intro s₁ t s₂ h hstep
    obtain ⟨hrouter, hsent⟩ := sent_of_step hstep h.1
    exact ⟨hrouter ▸ h.1, hsent.trans h.2⟩
  exact (run_induction hkeep hrun ⟨hdone, rfl⟩).2

/-- The record behind those that have been passed on is the one that an outcome rests on. -/
lemma Settled.exists_record {limit : Nat} {arrived : List Arrival} {v : Verdict}
    (h : Settled limit arrived s v)
    (hdecode : ∀ failure?, v = .reported failure? → ∃ failure, failure? = some failure ∧
      failure.kind = .decode) :
    ∃ record, (lines (readable arrived))[s.sent.length]? = some record ∧
      FiveTuple.marker <:+: record ∧ v = .ofResult (readResult record) := by
  obtain ⟨hconcluded, -⟩ := h
  obtain ⟨record, hrecord, hmarked, hv⟩ :=
    exists_line_of_verdict hconcluded.verdict_eq hconcluded.ne_undecided hdecode
  rw [hconcluded.messages_eq] at hrecord
  exact ⟨record, hrecord, occurs_iff.mp hmarked, hv⟩

/-- When a session that was started is over, it has passed on the first records of the engine's standard
output, byte for byte and in order, none of them marked or over-long, and it passes nothing on later.  If
it ends with a path, or with a failure to decode, the next record is the one that is decoded so. -/
theorem sent_eq_take_of_outcome (name : String) (config : Config) (turns : List Turn) (s : Session)
    (outcome : Outcome) (hrun : (create name config).run turns = some s) (hstage : s.stage = .started)
    (houtcome : s.outcome? = some outcome) :
    let records := lines (readable (arrivals turns))
    s.sent = records.take s.sent.length ∧
      (∀ record ∈ s.sent, ¬ FiveTuple.marker <:+: record ∧ record.length ≤ config.maxLineBytes) ∧
      (∀ more s', s.run more = some s' → s'.sent = s.sent) ∧
      match outcome with
      | .connected t =>
        ∃ record, records[s.sent.length]? = some record ∧ FiveTuple.marker <:+: record ∧
          readResult record = .ok t
      | .failed failure =>
        failure.kind = .decode →
          ∃ record, records[s.sent.length]? = some record ∧ FiveTuple.marker <:+: record ∧
            readResult record = .error failure := by
  intro records
  have h := faithful_run hrun
  have hreturned : s.controller.phase = .returned outcome := by
    simp only [outcome?, hstage, Controller.outcome?] at houtcome
    split at houtcome
    · next o hphase =>
      cases houtcome
      exact hphase
    · cases houtcome
  have hfront : s.sent <+: records.takeWhile (isPlain config.maxLineBytes) := h.follows.sent_prefix
  refine ⟨?_, fun record hrecord => ?_, fun more s' hmore => ?_, ?_⟩
  · exact List.prefix_iff_eq_take.mp (hfront.trans (List.takeWhile_prefix _))
  · have hplain := List.mem_takeWhile_imp (hfront.subset hrecord)
    simp only [isPlain, FiveTuple.isMarked, Bool.and_eq_true, decide_eq_true_eq,
      Bool.not_eq_true'] at hplain
    exact ⟨fun hmarked => by simp [occurs_iff.mpr hmarked] at hplain, hplain.1⟩
  · have hjoined : s.controller.hasJoined = true := by simp [Controller.hasJoined, hreturned]
    exact sent_of_run hmore (areTasksDone_iff.mp (h.done_of_joined hjoined)).1
  · have hwarranted := h.of_decision outcome (by simp [Controller.decision?, hreturned])
    cases outcome with
    | connected t =>
      obtain ⟨record, hrecord, hmarked, hv⟩ :=
        Settled.exists_record hwarranted (fun _ hreported => by cases hreported)
      exact ⟨record, hrecord, hmarked, Verdict.ofResult_injective hv.symm⟩
    | failed failure =>
      intro hkind
      obtain ⟨record, hrecord, hmarked, hv⟩ :=
        Settled.exists_record (hwarranted hkind) (fun _ hreported => by
          cases hreported
          exact ⟨failure, rfl, hkind⟩)
      exact ⟨record, hrecord, hmarked, Verdict.ofResult_injective hv.symm⟩

/-- A path that comes in two pieces behind a message, while the other tasks have their turns. -/
theorem sent_of_split_path :
    let config : Config := { binary := .path "engine", maxLineBytes := 24 }
    let arrival (text : String) : Turn := .world (.stdout (.data (Bytes.ofText text)))
    let turns : List Turn :=
      [.world (.start none), arrival "offer\n[\"udp\",\"a:1\"", .controller] ++
        List.replicate 6 .router ++
        [.controller, .pump, arrival ",\"5-tuple\"]\nlate\n", .controller, .controller] ++
        List.replicate 6 .router ++ [.controller, .controller, .controller] ++
        List.replicate 5 .relay ++ [.world (.exit (.exited 0)), .controller] ++
        List.replicate 5 (.watcher true) ++ List.replicate 3 .pump ++ [.controller, .controller]
    ∃ s, (create "s" config).run turns = some s ∧
      s.outcome? = some (.connected ⟨.udp, "a:1", "5-tuple"⟩) ∧ s.sent = [Bytes.ofText "offer"] ∧
      ∃ record, (lines (readable (arrivals turns)))[1]? = some record ∧
        readResult record = .ok ⟨.udp, "a:1", "5-tuple"⟩ := by
  intro config arrival turns
  have hend : ((create "s" config).run turns).map (fun s => (s.stage, s.outcome?, s.sent)) =
      some (.started, some (.connected ⟨.udp, "a:1", "5-tuple"⟩), [Bytes.ofText "offer"]) := by
    decide +kernel
  obtain ⟨s, hrun, hs⟩ := Option.map_eq_some_iff.mp hend
  obtain ⟨hstage, houtcome, hsent⟩ : s.stage = .started ∧
      s.outcome? = some (.connected ⟨.udp, "a:1", "5-tuple"⟩) ∧ s.sent = [Bytes.ofText "offer"] := by
    simpa only [Prod.mk.injEq] using hs
  obtain ⟨-, -, -, record, hrecord, -, hresult⟩ :=
    sent_eq_take_of_outcome "s" config turns s _ hrun hstage houtcome
  rw [hsent] at hrecord
  exact ⟨s, hrun, houtcome, hsent, record, hrecord, hresult⟩

end Session
end Traversal
