import Mathlib
import Traversal.Proofs.ConfigText
import Traversal.Proofs.TomlBounds
import Traversal.Session

/-!
# The queues of an accepted configuration

A bounded queue cannot be made with every capacity.  The limits of a configuration keep its capacities from being
too small, and the numbers of a document are less than 2 ^ 63 (`numbersFit_of_ofTable`).  What lies between the
greatest capacity of a queue and that bound is accepted although no queue can be made with it
(`admitsQueue_of_parse`, `exists_parse_of_capacities`).
-/

namespace Traversal.Config

open Toml

/-! ### The numbers of a configuration -/

/-- The numbers of a configuration are such as 64 bits hold with their sign. -/
structure NumbersFit (c : Config) : Prop where
  maxLineBytes : c.maxLineBytes < 2 ^ 63
  errorQueueCapacity : c.errorQueueCapacity < 2 ^ 63
  inboundQueueCapacity : c.inboundQueueCapacity < 2 ^ 63
  shutdownGrace : c.shutdownGrace < 2 ^ 63

/-- A number that is read is the number of a value. -/
lemma lt_of_readNatural {type : String} {key : Key} {item : Item} {n : Nat}
    (hitem : ∀ v span, item = .value v span → v.Bounded) (h : readNatural type key item = .ok n) :
    n < 2 ^ 63 := by
  obtain ⟨span, rfl⟩ := of_readNatural_eq_ok h
  have hfits : FitsWord n := hitem _ span rfl
  have hlt := hfits.2
  omega

/-- An item in range keeps the numbers of a draft in range. -/
lemma numbersFit_read {draft draft' : Draft} {f : Field} {key : Key} {item : Item}
    (hitem : ∀ v span, item = .value v span → v.Bounded) (hdraft : draft.settings.NumbersFit)
    (h : draft.read f key item = .ok draft') : draft'.settings.NumbersFit := by
  obtain ⟨hline, herror, hinbound, hgrace⟩ := hdraft
  cases f with
  | binary | extraArgs =>
    obtain ⟨value, -, rfl⟩ := of_map_eq_ok h
    exact ⟨hline, herror, hinbound, hgrace⟩
  | maxLineBytes =>
    obtain ⟨n, hread, rfl⟩ := of_map_eq_ok h
    exact ⟨lt_of_readNatural hitem hread, herror, hinbound, hgrace⟩
  | errorQueueCapacity =>
    obtain ⟨n, hread, rfl⟩ := of_map_eq_ok h
    exact ⟨hline, lt_of_readNatural hitem hread, hinbound, hgrace⟩
  | inboundQueueCapacity =>
    obtain ⟨n, hread, rfl⟩ := of_map_eq_ok h
    exact ⟨hline, herror, lt_of_readNatural hitem hread, hgrace⟩
  | shutdownGrace =>
    obtain ⟨n, hread, rfl⟩ := of_map_eq_ok h
    exact ⟨hline, herror, hinbound, lt_of_readNatural hitem hread⟩

/-- A configuration that is read from a bounded table has numbers in range. -/
lemma numbersFit_of_ofTable {t : Table} {whole : Span} {c : Config} (ht : t.Bounded)
    (h : ofTable t whole = .ok c) : c.NumbersFit := by
  obtain ⟨draft, hfold, h⟩ := of_bind_eq_ok h
  have hdraft : draft.settings.NumbersFit := by
    refine of_foldlM_eq_ok (P := fun _ draft => draft.settings.NumbersFit) ?_ ?_ hfold
    · intro _ x hx draft draft' hdraft hread
      rw [Draft.readEntry] at hread
      split at hread
      · exact numbersFit_read (ht x hx) hdraft hread
      · cases hread
    · exact ⟨by decide, by decide, by decide, by decide⟩
  cases hpath : draft.binary with
  | some path =>
    simp only [hpath] at h
    cases h
    exact ⟨hdraft.maxLineBytes, hdraft.errorQueueCapacity, hdraft.inboundQueueCapacity, hdraft.shutdownGrace⟩
  | none =>
    simp only [hpath] at h
    cases h

/-- A configuration that is read was checked, and its numbers are such as a document holds. -/
lemma of_parse_text {text : String} {c : Config} (h : parse text = .ok c) :
    c.violation? = none ∧ c.NumbersFit := by
  unfold parse at h
  split at h
  · cases h
  · next t hparse =>
    split at h
    · cases h
    · next c' htable =>
      unfold validate at h
      split at h
      · next hviolation =>
        cases h
        exact ⟨hviolation, numbersFit_of_ofTable (bounded_of_parse hparse) htable⟩
      · cases h

/-- A configuration that breaks no limit has capacities that are not too small. -/
lemma le_of_violation?_eq_none {c : Config} (h : c.violation? = none) :
    1 ≤ c.inboundQueueCapacity ∧ 10 ≤ c.errorQueueCapacity := by
  unfold violation? minErrorQueueCapacity at h
  split_ifs at h
  omega

/-! ### Queues -/

/-- The greatest capacity of a bounded queue: the greatest number of 64 bits without its last three. -/
def greatestQueueSize : Nat :=
  (2 ^ 64 - 1) >>> 3

/-- A bounded queue can be made with a capacity. -/
def AdmitsQueue (size : Nat) : Prop :=
  1 ≤ size ∧ size ≤ greatestQueueSize

/-- The queues of an accepted configuration have the capacities that it names, which are never too small, and can
be made exactly if these are not too great. -/
theorem admitsQueue_of_parse {text : String} {c : Config} (h : parse text = .ok c) (name : String) :
    ((Session.create name c).mailbox.capacity = c.inboundQueueCapacity ∧
      1 ≤ c.inboundQueueCapacity ∧ c.inboundQueueCapacity < 2 ^ 63 ∧
      (AdmitsQueue (Session.create name c).mailbox.capacity ↔
        c.inboundQueueCapacity ≤ greatestQueueSize)) ∧
    ((Session.create name c).config.noticeQueueSize = c.errorQueueCapacity ∧
      10 ≤ c.errorQueueCapacity ∧ c.errorQueueCapacity < 2 ^ 63 ∧
      (AdmitsQueue (Session.create name c).config.noticeQueueSize ↔
        c.errorQueueCapacity ≤ greatestQueueSize)) := by
  obtain ⟨hviolation, hnumbers⟩ := of_parse_text h
  obtain ⟨hinbound, herror⟩ := le_of_violation?_eq_none hviolation
  have hmailbox : (Session.create name c).mailbox.capacity = c.inboundQueueCapacity := max_eq_left hinbound
  have hnotices : (Session.create name c).config.noticeQueueSize = c.errorQueueCapacity := max_eq_left herror
  refine ⟨⟨hmailbox, hinbound, hnumbers.inboundQueueCapacity, ?_⟩,
    hnotices, herror, hnumbers.errorQueueCapacity, ?_⟩
  · rw [hmailbox, AdmitsQueue]
    exact and_iff_right hinbound
  · rw [hnotices, AdmitsQueue]
    exact and_iff_right (by omega)

/-- A text that is read as a configuration, seen without its failure. -/
lemma eq_ok_of_toOption {text : String} {c : Config} (h : (parse text).toOption = some c) :
    parse text = .ok c := by
  cases hparse : parse text with
  | ok c' =>
    rw [hparse] at h
    exact congrArg Except.ok (Option.some.inj h)
  | error failure =>
    rw [hparse] at h
    cases h

/-- Both queues can be made with the capacities that a document leaves to the defaults. -/
theorem admitsQueue_of_defaults : parse "binary = \"natty\"\n" = .ok { binary := .path "natty" } ∧
    AdmitsQueue (Session.create "caller" { binary := .path "natty" }).mailbox.capacity ∧
    AdmitsQueue (Session.create "caller" { binary := .path "natty" }).config.noticeQueueSize := by
  have hparse : parse "binary = \"natty\"\n" = .ok { binary := .path "natty" } :=
    eq_ok_of_toOption (by decide +kernel)
  obtain ⟨⟨-, -, -, hinbound⟩, -, -, -, hnotices⟩ := admitsQueue_of_parse hparse "caller"
  exact ⟨hparse, hinbound.mpr (by decide), hnotices.mpr (by decide)⟩

/-- No queue can be made with the greatest number of a document, which is accepted as a capacity. -/
theorem accepted_without_queue : ∃ c : Config,
    parse "binary = \"natty\"\ninbound_queue_capacity = 9223372036854775807" = .ok c ∧
      ¬ AdmitsQueue (Session.create "caller" c).mailbox.capacity := by
  refine ⟨{ binary := .path "natty", inboundQueueCapacity := 9223372036854775807 },
    eq_ok_of_toOption (by decide +kernel), ?_⟩
  rintro ⟨-, hgreatest⟩
  revert hgreatest
  decide

/-- All capacities from the least ones that pass the checks to the greatest number of a document are accepted. -/
theorem exists_parse_of_capacities {inbound notices : Nat}
    (hinbound : 1 ≤ inbound) (hinbound' : inbound < 2 ^ 63)
    (hnotices : 10 ≤ notices) (hnotices' : notices < 2 ^ 63) : ∃ (text : String) (c : Config),
      parse text = .ok c ∧ c.inboundQueueCapacity = inbound ∧ c.errorQueueCapacity = notices := by
  let a : Assignment :=
    { binary := "natty", errorQueueCapacity := some notices, inboundQueueCapacity := some inbound }
  obtain ⟨d, hmakes⟩ := exists_document_makes a.settings (by
    intro n hn
    simp [a, Assignment.settings, Setting.datum] at hn
    omega)
  have houtcome := outcome_of_makes hmakes (.refl _)
  have hnone : a.firstBroken? = none := by
    have hnotices : ¬ notices < 10 := by omega
    have hinbound : inbound ≠ 0 := by omega
    simp [a, Assignment.firstBroken?, Assignment.breaks, Assignment.config, hnotices, hinbound]
  rw [Assignment.Outcome, hnone] at houtcome
  exact ⟨d.text, a.config, houtcome, rfl, rfl⟩

end Traversal.Config
