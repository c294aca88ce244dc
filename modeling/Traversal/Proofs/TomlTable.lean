import Mathlib
import Traversal.Proofs.TomlDocument

/-!
# What entries make of a table

Entries under no header whose keys are single names, all of them different, make a table that lists their values
in their order (`foldlM_add_of_nodup`).  Conversely, a table that came about without a refusal either lists the
values of such entries or holds a table that a dotted key has made (`grown_of_foldlM_add`).
-/

namespace Traversal.Toml

variable {t t' : Table} {e : Entry}

/-! ### Keys of a table -/

/-- A key stands for something in a table that has an entry for it. -/
lemma Table.isSome_get?_iff (t : Table) (name : String) :
    (t.get? name).isSome ↔ name ∈ t.entries.map (·.1.name) := by
  simp [Table.get?, List.find?_isSome]

/-- A new key is put behind the others. -/
lemma Table.set_of_not_mem {key : Key} (h : key.name ∉ t.entries.map (·.1.name)) (item : Item) :
    t.set key item = { t with entries := t.entries ++ [(key, item)] } := by
  rw [← t.isSome_get?_iff, Bool.not_eq_true] at h
  simp only [Table.set, h, Bool.false_eq_true, if_false]

/-- What a table holds after a key was set. -/
lemma Table.of_mem_set {key : Key} {item : Item} {x : Key × Item} (h : x ∈ (t.set key item).entries) :
    x ∈ t.entries ∨ x.2 = item := by
  unfold Table.set at h
  split at h
  · obtain ⟨y, hy, rfl⟩ := List.mem_map.mp h
    by_cases hname : y.1.name = key.name
    · exact .inr (by rw [if_pos hname])
    · exact .inl (by rwa [if_neg hname])
  · rcases List.mem_append.mp h with h | h
    · exact .inl h
    · exact .inr (by rw [List.mem_singleton.mp h])

/-- A table holds what a key was set to. -/
lemma Table.exists_mem_set (t : Table) (key : Key) (item : Item) :
    ∃ x ∈ (t.set key item).entries, x.2 = item := by
  unfold Table.set
  split
  · next h =>
    obtain ⟨y, hy, hname⟩ := List.mem_map.mp ((t.isSome_get?_iff key.name).mp h)
    exact ⟨(y.1, item), List.mem_map.mpr ⟨y, hy, if_pos hname⟩, rfl⟩
  · exact ⟨(key, item), List.mem_append_right _ (List.mem_singleton_self _), rfl⟩

/-- How a table came about does not depend on its keys. -/
lemma Table.origin_set (t : Table) (key : Key) (item : Item) : (t.set key item).origin = t.origin := by
  unfold Table.set
  split <;> rfl

/-! ### Adding one entry -/

/-- A key of a single name that is not there is added, and one that is there is refused. -/
lemma Table.add_of_path_nil (home : List Key) (hpath : e.path = []) (hdotted : t.origin.isDotted = false) :
    t.add home e =
      if e.key.name ∈ t.entries.map (·.1.name) then .error (.duplicateIn e.key.name (home.map (·.name)))
      else .ok { t with entries := t.entries ++ [(e.key, .value e.value e.span)] } := by
  have hdotted' : t.origin.isDotted ≠ ([] : List Key).isEmpty := by simp [hdotted]
  by_cases hmem : e.key.name ∈ t.entries.map (·.1.name)
  · have hsome := (t.isSome_get?_iff _).mpr hmem
    rw [if_pos hmem, Table.add, hpath, Table.within, if_neg hdotted', if_pos hsome]
    rfl
  · have hnone := mt (t.isSome_get?_iff _).mp hmem
    rw [if_neg hmem, Table.add, hpath, Table.within, if_neg hdotted', if_neg hnone, Table.set_of_not_mem hmem]
    rfl

/-- A table holds no tables of a repeated header. -/
def Table.Unrepeated (t : Table) : Prop :=
  ∀ x ∈ t.entries, ∀ tables, x.2 ≠ .tables tables

/-- A table holds a table. -/
def Table.Nests (t : Table) : Prop :=
  ∃ x ∈ t.entries, ∃ origin entries, x.2 = .table origin entries

/-- On the way to another table a key is set to a table, or to the tables that it stands for already. -/
lemma Table.exists_set_of_within_cons {α : Type} {isDotted : Bool} {seen path : List Key} {key : Key} {a : α}
    {change : Table → Except Objection (Table × α)}
    (h : t.within isDotted seen (key :: path) change = .ok (t', a)) : ∃ item, t' = t.set key item ∧
      ((∃ origin entries, item = .table origin entries) ∨
        ∃ tables tables', item = .tables tables ∧ t.get? key.name = some (.tables tables')) := by
  have hset : ∀ (inner : Except Objection (Table × α)) (item : Table → Item),
      (inner >>= fun inner => .ok (t.set key (item inner.1), inner.2)) = Except.ok (t', a) →
        ∃ inner, t' = t.set key (item inner) := by
    intro inner item hinner
    obtain ⟨inner, -, hchanged⟩ := of_bind_eq_ok hinner
    exact ⟨inner.1, (Prod.mk.inj (Except.ok.inj hchanged)).1.symm⟩
  rw [Table.within] at h
  cases hget : t.get? key.name with
  | none =>
    simp only [hget] at h
    obtain ⟨inner, hinner⟩ := hset _ (fun inner => .table inner.origin inner.entries) h
    exact ⟨_, hinner, .inl ⟨_, _, rfl⟩⟩
  | some found =>
    simp only [hget] at h
    cases found with
    | value v span => cases h
    | table origin entries =>
      dsimp only at h
      split at h
      · cases h
      · obtain ⟨inner, hinner⟩ := hset _ (fun inner => .table inner.origin inner.entries) h
        exact ⟨_, hinner, .inl ⟨_, _, rfl⟩⟩
    | tables tables =>
      obtain ⟨inner, hinner⟩ :=
        hset _ (fun inner => .tables (tables.dropLast ++ [(inner.origin, inner.entries)])) h
      exact ⟨_, hinner, .inr ⟨_, tables, rfl, rfl⟩⟩

/-- A dotted key nests a table. -/
lemma Table.of_within_cons {α : Type} {isDotted : Bool} {seen path : List Key} {key : Key} {a : α}
    {change : Table → Except Objection (Table × α)} (ht : t.Unrepeated)
    (h : t.within isDotted seen (key :: path) change = .ok (t', a)) :
    t'.origin = t.origin ∧ t'.Unrepeated ∧ t'.Nests := by
  obtain ⟨item, rfl, ⟨origin, entries, rfl⟩ | ⟨tables, tables', -, hget⟩⟩ := Table.exists_set_of_within_cons h
  · refine ⟨t.origin_set _ _, fun x hx tables htables => ?_, ?_⟩
    · rcases Table.of_mem_set hx with hx | hx
      · exact ht x hx tables htables
      · rw [hx] at htables
        cases htables
    · obtain ⟨x, hx, hitem⟩ := t.exists_mem_set key (.table origin entries)
      exact ⟨x, hx, origin, entries, hitem⟩
  · rw [Table.get?, Option.map_eq_some_iff] at hget
    obtain ⟨x, hx, hitem⟩ := hget
    exact absurd hitem (ht x (List.mem_of_find?_eq_some hx) tables')

/-! ### Adding entries -/

/-- A table lists the values of entries whose keys are single names, all of them different. -/
structure Table.Lists (t : Table) (es : List Entry) : Prop where
  flat : ∀ e ∈ es, e.path = []
  nodup : (es.map (·.key.name)).Nodup
  entries : t.entries = es.map fun e => (e.key, .value e.value e.span)

/-- What entries under no header can make of a table. -/
structure Table.Grown (t : Table) (es : List Entry) : Prop where
  isDotted : t.origin.isDotted = false
  unrepeated : t.Unrepeated
  shape : t.Nests ∨ t.Lists es

/-- The names in a table that lists entries. -/
lemma Table.Lists.names {es : List Entry} (h : t.Lists es) :
    t.entries.map (·.1.name) = es.map (·.key.name) := by
  rw [h.entries, List.map_map]
  rfl

/-- A table that lists entries lists one more, if its key is a new single name. -/
lemma Table.Lists.append {es : List Entry} (h : t.Lists es) (hpath : e.path = [])
    (hnew : e.key.name ∉ t.entries.map (·.1.name)) :
    Table.Lists { t with entries := t.entries ++ [(e.key, .value e.value e.span)] } (es ++ [e]) where
  flat := by
    intro x hx
    rcases List.mem_append.mp hx with hx | hx
    · exact h.flat x hx
    · rwa [List.mem_singleton.mp hx]
  nodup := by
    rw [List.map_append, List.nodup_append]
    refine ⟨h.nodup, List.nodup_singleton _, ?_⟩
    intro name hname name' hname' heq
    rw [List.map_singleton, List.mem_singleton] at hname'
    exact hnew (h.names ▸ hname' ▸ heq ▸ hname)
  entries := by rw [h.entries, List.map_append]; rfl

/-- An entry that is added keeps the table as entries make it. -/
theorem Table.Grown.add {es : List Entry} {home : List Key} (h : t.Grown es) (hadd : t.add home e = .ok t') :
    t'.Grown (es ++ [e]) := by
  cases hpath : e.path with
  | nil =>
    rw [Table.add_of_path_nil home hpath h.isDotted] at hadd
    split at hadd
    · cases hadd
    · next hnew =>
      cases hadd
      refine ⟨h.isDotted, ?_, ?_⟩
      · intro x hx tables htables
        rcases List.mem_append.mp hx with hx | hx
        · exact h.unrepeated x hx tables htables
        · rw [List.mem_singleton.mp hx] at htables
          cases htables
      · rcases h.shape with ⟨x, hx, hnests⟩ | hlists
        · exact .inl ⟨x, List.mem_append_left _ hx, hnests⟩
        · exact .inr (hlists.append hpath hnew)
  | cons key path =>
    rw [Table.add, hpath] at hadd
    obtain ⟨changed, hwithin, rfl⟩ := of_map_eq_ok hadd
    obtain ⟨horigin, hunrepeated, hnests⟩ := Table.of_within_cons (a := changed.2) h.unrepeated hwithin
    exact ⟨by rw [horigin]; exact h.isDotted, hunrepeated, .inl hnests⟩

variable {draft draft' : Draft}

/-- The stretch of a table does not matter for what it holds. -/
lemma grown_stretched {es : List Entry} (h : draft.current.Grown es) : (draft.stretched e).Grown es :=
  ⟨h.isDotted, h.unrepeated, h.shape.imp_right fun hlists => ⟨hlists.flat, hlists.nodup, hlists.entries⟩⟩

/-- A table that came about without a refusal. -/
theorem grown_of_foldlM_add {document : Place} {read : List Entry}
    (h : read.foldlM Draft.add (Draft.empty document) = .ok draft) : draft.current.Grown read := by
  refine of_foldlM_eq_ok (P := fun es d => d.current.Grown es) ?_ ?_ h
  · intro before e _ x y hx hy
    rw [Draft.add_eq] at hy
    obtain ⟨current, hadd, rfl⟩ := of_map_eq_ok hy
    exact (grown_stretched hx).add hadd
  · exact ⟨rfl, List.forall_mem_nil _, .inr ⟨List.forall_mem_nil _, List.nodup_nil, rfl⟩⟩

/-- Entries whose keys are single names, all of them different, are added one by one. -/
theorem foldlM_add_of_nodup {before read : List Entry} (hlists : draft.current.Lists before)
    (hdotted : draft.current.origin.isDotted = false) (hflat : ∀ e ∈ read, e.path = [])
    (hnodup : ((before ++ read).map (·.key.name)).Nodup) : ∃ draft',
      read.foldlM Draft.add draft = .ok draft' ∧ draft'.current.Lists (before ++ read) := by
  induction read generalizing before draft with
  | nil => exact ⟨draft, rfl, by rwa [List.append_nil]⟩
  | cons e read ih =>
    have hpath := hflat e List.mem_cons_self
    have hnew : e.key.name ∉ (draft.stretched e).entries.map (·.1.name) := by
      rw [Draft.stretched, hlists.names]
      rw [List.map_append, List.nodup_append] at hnodup
      intro hmem
      exact hnodup.2.2 _ hmem _ (List.mem_map_of_mem List.mem_cons_self) rfl
    let listed : Table := { draft.stretched e with
      entries := (draft.stretched e).entries ++ [(e.key, .value e.value e.span)] }
    have hlisted : listed.Lists (before ++ [e]) :=
      Table.Lists.append ⟨hlists.flat, hlists.nodup, hlists.entries⟩ hpath hnew
    let next : Draft := { draft with current := listed }
    have hnext : next.current.Lists (before ++ [e]) := hlisted
    have hstretched : (draft.stretched e).origin.isDotted = false := hdotted
    have htable : (draft.stretched e).add draft.header.names e = .ok listed :=
      (Table.add_of_path_nil _ hpath hstretched).trans (if_neg hnew)
    have hadd : draft.add e = .ok next := by
      rw [Draft.add_eq, htable]
      rfl
    rw [List.append_cons] at hnodup ⊢
    obtain ⟨draft', hfold, hlists'⟩ :=
      ih hnext hdotted (fun e he => hflat e (List.mem_cons_of_mem _ he)) hnodup
    exact ⟨draft', foldlM_cons_eq_ok.mpr ⟨_, hadd, hfold⟩, hlists'⟩

end Traversal.Toml
