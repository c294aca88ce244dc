import Mathlib
import Traversal.Proofs.TomlTable

/-!
# The integers of a document

Whatever the text of a document is, the integers that stand under its keys outside of all tables fit into 64
bits with their sign (`bounded_of_parse`).  A reader `Gives` a property if all that it reads has it; a line keeps a
draft bounded, and so do all lines together.
-/

namespace Traversal.Toml.Reader

variable {α β : Type} {r r' : Reader α} {f : α → Reader β} {P : α → Prop} {Q : β → Prop}

/-! ### What readers give -/

/-- Whatever a reader reads has a property. -/
def Gives (r : Reader α) (P : α → Prop) : Prop :=
  ∀ s a s', r s = .ok (a, s') → P a

/-- What is read last counts. -/
lemma Gives.bind (h : Gives r P) (h' : ∀ a, P a → Gives (f a) Q) : Gives (r >>= f) Q := by
  intro s b s' hread
  cases hr : r s with
  | error refusal =>
    rw [bind_of_error hr] at hread
    cases hread
  | ok read =>
    obtain ⟨a, rest⟩ := read
    rw [bind_of_ok hr] at hread
    exact h' a (h s a rest hr) _ _ _ hread

/-- What is read before does not matter. -/
lemma gives_bind (h : ∀ a, Gives (f a) Q) : Gives (r >>= f) Q :=
  Gives.bind (P := fun _ => True) (fun _ _ _ _ => trivial) fun a _ => h a

/-- Something that is given without reading. -/
lemma gives_pure {a : α} (h : P a) : Gives (Pure.pure a) P := by
  rintro s b s' hread
  cases hread
  exact h

/-- Nothing is given by a refusal. -/
lemma gives_refuse : Gives (refuse : Reader α) P := by
  intro s a s' h
  cases h

/-- What is said about refusals does not matter for what is read. -/
lemma gives_of_mapError {g : Refusal → Refusal} (h : Gives r P) : Gives (fun s => (r s).mapError g) P := by
  intro s a s' hread
  refine h s a s' ?_
  cases hr : r s with
  | error refusal =>
    simp only [hr, Except.mapError] at hread
    cases hread
  | ok read =>
    simp only [hr, Except.mapError] at hread
    exact hread

lemma Gives.must (h : Gives r P) : Gives (must r) P :=
  gives_of_mapError h

lemma Gives.named (h : Gives r P) (construct : String) : Gives (named r construct) P :=
  gives_of_mapError h

lemma Gives.expecting (h : Gives r P) (expected : List String) : Gives (expecting r expected) P :=
  gives_of_mapError h

/-- Either of two readers is used. -/
lemma Gives.orElse (h : Gives r P) (h' : Gives r' P) : Gives (orElse r r') P := by
  intro s a s' hread
  cases hr : r s with
  | ok read =>
    simp only [Reader.orElse, hr] at hread
    exact h s a s' (hr.trans hread)
  | error refusal =>
    simp only [Reader.orElse, hr] at hread
    split at hread
    · cases hread
    · exact h' s a s' hread

/-- What is read with its stretch is what is read. -/
lemma Gives.spanned (h : Gives r P) : Gives (spanned r) (fun read => P read.1) := by
  intro s a s' hread
  cases hr : r s with
  | ok read =>
    simp only [Reader.spanned, hr] at hread
    cases hread
    exact h s _ _ hr
  | error refusal =>
    simp only [Reader.spanned, hr] at hread
    cases hread

/-- What passes a check. -/
lemma Gives.checked {check : α → Except Objection β} (h : Gives r P)
    (hcheck : ∀ a b, P a → check a = .ok b → Q b) : Gives (checked r check) Q := by
  intro s b s' hread
  cases hr : r s with
  | ok read =>
    simp only [Reader.checked, hr] at hread
    cases hc : check read.1 with
    | ok b' =>
      rw [hc] at hread
      cases hread
      exact hcheck read.1 b (h s _ _ hr) hc
    | error objection =>
      rw [hc] at hread
      cases hread
  | error refusal =>
    simp only [Reader.checked, hr] at hread
    cases hread

/-- What passes a check, whatever was read. -/
lemma gives_checked {check : α → Except Objection β} (hcheck : ∀ a b, check a = .ok b → Q b) :
    Gives (checked r check) Q :=
  Gives.checked (P := fun _ => True) (fun _ _ _ _ => trivial) fun a b _ => hcheck a b

end Reader

/-! ### Integers -/

open Reader

/-- A number that 64 bits hold with its sign. -/
def FitsWord (n : Int) : Prop :=
  -(2 ^ 63) ≤ n ∧ n < 2 ^ 63

/-- A value that is no integer out of range. -/
def Value.Bounded : Value → Prop
  | .integer n => FitsWord n
  | _ => True

/-- What fits into 64 bits is in their range. -/
lemma fitsWord_of_fit {isNegative : Bool} {n : Nat} {m : Int} (h : fit isNegative n = .ok m) : FitsWord m := by
  have hpow : Nat.pow 2 63 = 2 ^ 63 := rfl
  unfold fit at h
  rw [FitsWord]
  split_ifs at h with _ hsmall hsmall
  · cases h
    rw [hpow] at hsmall
    omega
  · cases h
    rw [hpow] at hsmall
    omega

/-- An integer that is read is in range. -/
lemma gives_integer : Gives integer FitsWord := by
  have hmarked : ∀ marker isDigit base construct, Gives (marked marker isDigit base construct) FitsWord :=
    fun _ _ _ _ => (gives_checked fun _ _ h => fitsWord_of_fit h).must
  intro s n s' h
  unfold integer at h
  split at h
  · exact hmarked _ _ _ _ _ _ _ h
  · exact hmarked _ _ _ _ _ _ _ h
  · exact hmarked _ _ _ _ _ _ _ h
  · split at h
    · cases h
    · split at h
      · next hfit =>
        cases h
        exact fitsWord_of_fit hfit
      · cases h

/-- A list that is read is no integer. -/
lemma gives_list (r : Reader Value) : Gives (list r) Value.Bounded :=
  gives_bind fun _ => gives_bind fun _ => gives_bind fun _ => gives_pure trivial

/-- A table in braces that is read is no integer. -/
lemma gives_inline (r : Reader Value) : Gives (inline r) Value.Bounded := by
  have htable : ∀ entries v, inlineOf entries = .ok v → v.Bounded := by
    intro entries v h
    rw [inlineOf] at h
    cases hfold : entries.foldlM (fun t e => addInline e.key.name e.value [] (e.path.map (·.name)) t) [] with
    | ok t =>
      rw [hfold] at h
      cases h
      trivial
    | error objection =>
      rw [hfold] at h
      cases h
  refine gives_bind fun _ => Gives.bind (gives_checked htable).must fun v hv => ?_
  exact gives_bind fun _ => gives_pure hv

/-- Nothing is read in brackets that are too deep. -/
lemma gives_refuseDepth : Gives refuseDepth Value.Bounded := by
  intro s v s' h
  cases h

/-- A value that is read is in range if it is an integer. -/
theorem gives_value (depth : Nat) : Gives (value depth) Value.Bounded := by
  have hvalue : ∀ {inBrackets inBraces}, Gives inBrackets Value.Bounded → Gives inBraces Value.Bounded →
      Gives (valueOf inBrackets inBraces) Value.Bounded := by
    intro inBrackets inBraces hbrackets hbraces s v s' h
    have hinteger : Gives (do return .integer (← integer)) Value.Bounded :=
      gives_integer.bind fun n hn => gives_pure hn
    cases s with
    | nil => cases h
    | cons c rest =>
      simp only [valueOf] at h
      split_ifs at h
      · exact gives_bind (fun _ => gives_pure trivial) _ _ _ h
      · exact hbrackets _ _ _ h
      · exact hbraces _ _ _ h
      · exact (gives_bind fun _ => gives_pure trivial).orElse
          ((gives_bind fun _ => gives_pure trivial).orElse hinteger) _ _ _ h
      · exact hinteger.expecting _ _ _ _ h
      · exact (gives_bind fun _ => gives_pure trivial).expecting _ _ _ _ h
      · exact ((gives_bind fun _ => gives_pure trivial).named _).expecting _ _ _ _ h
      · exact ((gives_bind fun _ => gives_pure trivial).named _).expecting _ _ _ _ h
      · exact ((gives_bind fun _ => gives_pure trivial).named _).expecting _ _ _ _ h
      · exact ((gives_bind fun _ => gives_pure trivial).named _).expecting _ _ _ _ h
      · exact (gives_refuse.named _).expecting _ _ _ _ h
  cases depth with
  | zero => exact hvalue gives_refuseDepth gives_refuseDepth
  | succ depth => exact hvalue (gives_list _) (gives_inline _)

/-- The value of an entry that is read is in range if it is an integer. -/
lemma gives_entry {r : Reader Value} (h : Gives r Value.Bounded) (rest : Reader Unit) :
    Gives (entry r rest) (·.value.Bounded) := by
  refine gives_bind fun names => Gives.must ?_
  refine gives_bind fun _ => gives_bind fun _ => Gives.bind h.spanned fun read hread => gives_bind fun _ => ?_
  cases names.reverse with
  | nil => exact gives_refuse
  | cons last before => exact gives_pure hread

/-! ### Tables and drafts -/

/-- The integers that stand under the keys of a table are in range. -/
def Table.Bounded (t : Table) : Prop :=
  ∀ x ∈ t.entries, ∀ v span, x.2 = .value v span → v.Bounded

variable {t t' : Table} {draft draft' : Draft} {key : Key} {path : List Key}

/-- A key may be set to a value in range, or to a table. -/
lemma Table.Bounded.set {item : Item} (h : t.Bounded) (hitem : ∀ v span, item = .value v span → v.Bounded) :
    (t.set key item).Bounded := by
  intro x hx v span hvalue
  rcases Table.of_mem_set hx with hx | hx
  · exact h x hx v span hvalue
  · exact hitem v span (hx ▸ hvalue)

/-- A change inside keeps a table bounded, if it does so where no name is on the way. -/
lemma Table.Bounded.within {α : Type} {isDotted : Bool} {seen : List Key} {a : α}
    {change : Table → Except Objection (Table × α)} (h : t.Bounded)
    (hchange : ∀ t' a, change t = .ok (t', a) → t'.Bounded)
    (hwithin : t.within isDotted seen path change = .ok (t', a)) : t'.Bounded := by
  cases path with
  | nil => exact hchange t' a hwithin
  | cons key path =>
    obtain ⟨item, rfl, hitem⟩ := Table.exists_set_of_within_cons hwithin
    refine h.set fun v span hvalue => ?_
    rcases hitem with ⟨origin, entries, rfl⟩ | ⟨tables, tables', rfl, -⟩ <;> cases hvalue

/-- A change at a header keeps a table bounded, if it does so where no name is on the way. -/
lemma Table.Bounded.atHeader {change : Table → Except Objection Table} (h : t.Bounded)
    (hchange : ∀ t', change t = .ok t' → t'.Bounded) (hat : t.atHeader path change = .ok t') : t'.Bounded := by
  obtain ⟨changed, hwithin, rfl⟩ := of_map_eq_ok hat
  refine h.within (a := changed.2) (fun t' a hok => ?_) hwithin
  obtain ⟨t'', hc, hsame⟩ := of_map_eq_ok hok
  obtain ⟨rfl, -⟩ := Prod.mk.inj hsame
  exact hchange t'' hc

/-- An entry whose value is in range keeps a table bounded. -/
lemma Table.Bounded.add {home : List Key} {e : Entry} (h : t.Bounded) (he : e.value.Bounded)
    (hadd : t.add home e = .ok t') : t'.Bounded := by
  obtain ⟨changed, hwithin, rfl⟩ := of_map_eq_ok hadd
  refine h.within (a := changed.2) (fun t' a hchange => ?_) hwithin
  split_ifs at hchange
  cases hchange
  refine h.set fun v span hvalue => ?_
  obtain ⟨rfl, -⟩ := Item.value.inj hvalue
  exact he

/-- The table of a draft that is the document's own is bounded, and so are the finished tables. -/
structure Draft.Bounded (draft : Draft) : Prop where
  finished : draft.finished.Bounded
  current : draft.header = .root → draft.current.Bounded

/-- An entry whose value is in range keeps a draft bounded. -/
lemma Draft.Bounded.add {e : Entry} (h : draft.Bounded) (he : e.value.Bounded)
    (hadd : draft.add e = .ok draft') : draft'.Bounded := by
  rw [Draft.add_eq] at hadd
  obtain ⟨current, hcurrent, rfl⟩ := of_map_eq_ok hadd
  refine ⟨h.finished, fun hroot => ?_⟩
  have hstretched : (draft.stretched e).Bounded := h.current hroot
  exact hstretched.add he hcurrent

/-- A table may be put under a key. -/
lemma Table.Bounded.set_table {origin : Origin} {entries : List (Key × Item)} (h : t.Bounded) :
    (t.set key (.table origin entries)).Bounded :=
  h.set nofun

/-- Tables may be put under a key. -/
lemma Table.Bounded.set_tables {tables : List (Origin × List (Key × Item))} (h : t.Bounded) :
    (t.set key (.tables tables)).Bounded :=
  h.set nofun

/-- The finished table of a bounded draft is bounded. -/
lemma Draft.Bounded.finish (h : draft.Bounded) (hfinish : draft.finish = .ok t) : t.Bounded := by
  rw [Draft.finish] at hfinish
  cases hheader : draft.header with
  | root =>
    simp only [hheader] at hfinish
    cases hfinish
    exact h.current hheader
  | single path key =>
    simp only [hheader] at hfinish
    refine h.finished.atHeader (fun t' hchange => ?_) hfinish
    cases hchange
    exact h.finished.set_table
  | repeated path key =>
    simp only [hheader] at hfinish
    refine h.finished.atHeader (fun t' hchange => ?_) hfinish
    split at hchange
    · cases hchange
      exact h.finished.set_tables
    · cases hchange
      exact h.finished.set_tables
    · cases hchange

/-- A header keeps a draft bounded. -/
lemma Draft.Bounded.openSingle {span : Span} (h : draft.Bounded)
    (hopen : draft.openSingle path key span = .ok draft') : draft'.Bounded := by
  obtain ⟨finished, hfinish, hopen⟩ := of_bind_eq_ok hopen
  obtain ⟨opened, hwithin, hopen⟩ := of_bind_eq_ok hopen
  cases hopen
  have hfinished : finished.Bounded := h.finish hfinish
  refine ⟨hfinished.within (a := opened.2) (fun t' entries hchange => ?_) hwithin, nofun⟩
  split at hchange
  · cases hchange
    exact hfinished
  · split_ifs at hchange
    cases hchange
    exact fun x hx => hfinished x (List.mem_of_mem_filter hx)
  · cases hchange

/-- A header in double brackets keeps a draft bounded. -/
lemma Draft.Bounded.openRepeated {span : Span} (h : draft.Bounded)
    (hopen : draft.openRepeated path key span = .ok draft') : draft'.Bounded := by
  obtain ⟨finished, hfinish, hopen⟩ := of_bind_eq_ok hopen
  obtain ⟨opened, hat, hopen⟩ := of_bind_eq_ok hopen
  cases hopen
  have hfinished : finished.Bounded := h.finish hfinish
  refine ⟨hfinished.atHeader (fun t' hchange => ?_) hat, nofun⟩
  split at hchange
  · cases hchange
    exact hfinished.set_tables
  · cases hchange
    exact hfinished
  · cases hchange

/-! ### Lines -/

/-- A header that is read keeps a draft bounded. -/
lemma gives_tableHeader (h : draft.Bounded) : Gives (tableHeader draft) Draft.Bounded := by
  refine Gives.named ?_ _
  intro s draft' s' hread
  dsimp only at hread
  split at hread
  · refine gives_checked ?_ _ _ _ hread
    intro read draft' hchange
    split at hchange
    · exact h.openRepeated hchange
    · cases hchange
      exact h
  · refine gives_checked ?_ _ _ _ hread
    intro read draft' hchange
    split at hchange
    · exact h.openSingle hchange
    · cases hchange
      exact h
  · cases hread

/-- A line that is read keeps a draft bounded. -/
theorem gives_line (h : draft.Bounded) : Gives (line draft) Draft.Bounded := by
  intro s draft' s' hread
  cases s with
  | nil => cases hread
  | cons c rest =>
    simp only [line] at hread
    split_ifs at hread
    · exact gives_bind (fun _ => gives_pure h) _ _ _ hread
    · exact (gives_tableHeader h).must _ _ _ hread
    · exact gives_bind (fun _ => gives_pure h) _ _ _ hread
    · exact ((gives_entry (gives_value _) _).checked fun e draft' he hadd => h.add he hadd).must _ _ _ hread

/-- Lines that are read keep a draft bounded. -/
theorem gives_lines (n : Nat) (h : draft.Bounded) : Gives (lines n draft) Draft.Bounded := by
  induction n generalizing draft with
  | zero => exact gives_pure h
  | succ n ih =>
    intro s draft' s' hread
    have hline : Gives (do let draft ← line draft; blanks; return draft) Draft.Bounded :=
      (gives_line h).bind fun _ hdraft => gives_bind fun _ => gives_pure hdraft
    rw [lines] at hread
    dsimp only at hread
    split at hread
    · next hfirst => exact ih (hline _ _ _ hfirst) _ _ _ hread
    · split at hread
      · cases hread
      · cases hread
        exact h

/-- The integers that stand under the keys of a document outside of all tables are in range. -/
theorem bounded_of_parse {text : String} (h : parse text = .ok t) : t.Bounded := by
  have hempty : ∀ s, (Draft.empty s).Bounded := fun s => ⟨List.forall_mem_nil _, fun _ => List.forall_mem_nil _⟩
  have hdocument : Gives document Draft.Bounded := by
    intro s draft s' hread
    refine gives_bind (fun _ => gives_bind fun _ => ?_) _ _ _ hread
    exact (gives_lines _ (hempty s)).bind fun _ hdraft => gives_bind fun _ => gives_pure hdraft
  have hchecked : Gives (checked document Draft.finish) Table.Bounded :=
    hdocument.checked fun draft t hdraft hfinish => hdraft.finish hfinish
  rw [parse] at h
  cases hread : checked document Draft.finish text.toList with
  | ok read =>
    simp only [hread] at h
    cases h
    exact hchecked _ read.1 read.2 hread
  | error refusal =>
    simp only [hread] at h
    cases h

end Traversal.Toml
