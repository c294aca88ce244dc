import Mathlib
import Traversal.Proofs.ConfigSettings
import Traversal.Proofs.TomlTable

/-!
# Configurations as they can be written

An `Assignment` gives values to the fields of a configuration; all but the binary can be left out.  A document
whose entries make the settings of an assignment, in whatever order, is read as what the assignment comes to
(`outcome_of_makes`): the configuration with the defaults for what is left out, or, if a limit is broken, a failure
that names the first field whose limit is.

A document that is `Defective` is never read as a configuration (`parse_of_defective`).
-/

namespace Traversal.Config

open Toml

/-! ### Assignments -/

/-- Values for the fields of a configuration. -/
structure Assignment where
  binary : String
  extraArgs : Option (List String) := none
  maxLineBytes : Option Nat := none
  errorQueueCapacity : Option Nat := none
  inboundQueueCapacity : Option Nat := none
  shutdownGrace : Option Nat := none

namespace Assignment

/-- The settings that an assignment makes. -/
def settings (a : Assignment) : List Setting :=
  .binary a.binary :: ((a.extraArgs.map .extraArgs).toList ++ (a.maxLineBytes.map .maxLineBytes).toList ++
    (a.errorQueueCapacity.map .errorQueueCapacity).toList ++
    (a.inboundQueueCapacity.map .inboundQueueCapacity).toList ++ (a.shutdownGrace.map .shutdownGrace).toList)

/-- The configuration of an assignment, with the defaults for what it leaves out. -/
def config (a : Assignment) : Config where
  binary := .path a.binary
  extraArgs := a.extraArgs.getD []
  maxLineBytes := a.maxLineBytes.getD 1048576
  errorQueueCapacity := a.errorQueueCapacity.getD 10
  inboundQueueCapacity := a.inboundQueueCapacity.getD 16
  shutdownGrace := a.shutdownGrace.getD 5000

/-- The numbers of an assignment are such as 64 bits hold with their sign. -/
def Fits (a : Assignment) : Prop :=
  ∀ n, .number n ∈ a.settings.map Setting.datum → n < 2 ^ 63

/-- Whether a field breaks its limit. -/
def breaks (a : Assignment) : Field → Bool
  | .binary => a.config.binary = .path ""
  | .maxLineBytes => a.config.maxLineBytes = 0
  | .errorQueueCapacity => a.config.errorQueueCapacity < 10
  | .inboundQueueCapacity => a.config.inboundQueueCapacity = 0
  | .extraArgs | .shutdownGrace => false

/-- The first field that breaks its limit. -/
def firstBroken? (a : Assignment) : Option Field :=
  [.maxLineBytes, .errorQueueCapacity, .inboundQueueCapacity, .binary].find? a.breaks

/-- What must come of an assignment: its configuration, or else a failure that names the first field that breaks
its limit. -/
def Outcome (a : Assignment) (outcome : Except Failure Config) : Prop :=
  match a.firstBroken? with
  | none => outcome = .ok a.config
  | some field => ∃ failure rest,
      outcome = .error failure ∧ failure.kind = .config ∧ failure.detail = field.name ++ " must " ++ rest

end Assignment

/-- No field is set twice by an assignment. -/
lemma nodup_settings (a : Assignment) : (a.settings.map Setting.field).Nodup := by
  obtain ⟨binary, extraArgs, maxLineBytes, errorQueueCapacity, inboundQueueCapacity, shutdownGrace⟩ := a
  cases extraArgs <;> cases maxLineBytes <;> cases errorQueueCapacity <;> cases inboundQueueCapacity <;>
    cases shutdownGrace <;> exact of_decide_eq_true rfl

/-- The draft that the settings of an assignment make. -/
lemma foldl_settings (a : Assignment) : a.settings.foldl Draft.set {} =
    { binary := some a.binary, settings := { a.config with binary := .path "" } } := by
  obtain ⟨binary, extraArgs, maxLineBytes, errorQueueCapacity, inboundQueueCapacity, shutdownGrace⟩ := a
  cases extraArgs <;> cases maxLineBytes <;> cases errorQueueCapacity <;> cases inboundQueueCapacity <;>
    cases shutdownGrace <;> rfl

/-- The limits are checked in their order. -/
lemma outcome_validate (a : Assignment) : a.Outcome (validate a.config) := by
  simp only [Assignment.Outcome, Assignment.firstBroken?, validate, violation?, minErrorQueueCapacity,
    List.find?_cons, List.find?_nil, Assignment.breaks]
  by_cases hline : a.config.maxLineBytes = 0
  · simp only [hline, decide_true, if_true]
    exact ⟨_, "be greater than zero", rfl, rfl, rfl⟩
  by_cases herror : a.config.errorQueueCapacity < 10
  · simp only [hline, herror, decide_true, decide_false, if_true, if_false]
    exact ⟨_, "be at least 10", rfl, rfl, rfl⟩
  by_cases hinbound : a.config.inboundQueueCapacity = 0
  · simp only [hline, herror, hinbound, decide_true, decide_false, if_true, if_false]
    exact ⟨_, "be greater than zero", rfl, rfl, rfl⟩
  by_cases hbinary : a.config.binary = .path ""
  · simp only [hline, herror, hinbound, hbinary, decide_true, decide_false, if_true, if_false]
    exact ⟨_, "not be empty", rfl, rfl, rfl⟩
  · simp only [hline, herror, hinbound, hbinary, decide_false, if_false]

/-! ### Documents of settings -/

/-- A literal spells a datum: a basic string, a list of basic strings or a decimal integer. -/
inductive Spells : Literal → Datum → Prop
  | text (pieces : List Piece) : Spells (.ofPieces pieces) (.text (textOf pieces))
  | texts (l : ListText) : Spells (.ofList l) (.texts l.texts)
  | number (d : Decimal) (hfits : d.Fits) (n : Nat) (h : d.value = n) : Spells (.ofDecimal d hfits) (.number n)

/-- An entry makes a setting: its key is the name of the field, and its literal spells the datum. -/
def Makes (e : EntryText) (setting : Setting) : Prop :=
  e.key.names = [setting.field.name] ∧ Spells e.literal setting.datum

/-- What a literal is read as means what it spells. -/
lemma means_of_spells {literal : Literal} {datum : Datum} {v : Value} (h : Spells literal datum)
    (hread : literal.Reads v) : Means v datum := by
  cases h with
  | text pieces => rw [Literal.eq_of_reads_ofPieces hread]; rfl
  | texts l =>
    obtain ⟨read, rfl, hvalues⟩ := Literal.eq_of_reads_ofList hread
    exact hvalues
  | number d hfits n hvalue =>
    rw [Literal.eq_of_reads_ofDecimal hread]
    exact hvalue

/-- Every list of texts is written in some way. -/
lemma exists_listText (l : List String) : ∃ written : ListText, written.texts = l := by
  cases l with
  | nil => exact ⟨.empty {}, rfl⟩
  | cons s l =>
    refine ⟨.elements { pieces := piecesOf s } (l.map fun s => { pieces := piecesOf s }) none, ?_⟩
    simp [ListText.texts, textOf_piecesOf, Function.comp_def]

/-- Every datum is spelled in some way, if 64 bits hold its number. -/
lemma exists_spells (datum : Datum) (h : ∀ n, datum = .number n → n < 2 ^ 63) :
    ∃ literal, Spells literal datum := by
  cases datum with
  | text s =>
    have hspells := Spells.text (piecesOf s)
    rw [textOf_piecesOf] at hspells
    exact ⟨_, hspells⟩
  | texts l =>
    obtain ⟨written, rfl⟩ := exists_listText l
    exact ⟨_, .texts written⟩
  | number n =>
    obtain ⟨d, hsign, hdigits⟩ := exists_decimal n
    have hvalue : d.value = n := by
      rw [Decimal.value, hsign, hdigits]
      rfl
    have hsmall := h n rfl
    have hfits : d.Fits := by
      rw [Decimal.Fits, hvalue]
      omega
    exact ⟨_, .number d hfits n hvalue⟩

/-- Every setting is made by some entry, if 64 bits hold its number. -/
lemma exists_makes (setting : Setting) (h : ∀ n, setting.datum = .number n → n < 2 ^ 63) :
    ∃ e, Makes e setting := by
  obtain ⟨literal, hspells⟩ := exists_spells setting.datum h
  have hne : setting.field.name.toList ≠ [] := by cases setting.field <;> exact List.cons_ne_nil _ _
  have hbare : setting.field.name.toList.all isBareChar = true := by cases setting.field <;> rfl
  refine ⟨{ key := { first := .bare _ hne (List.all_eq_true.mp hbare) }, literal }, ?_, hspells⟩
  simp [KeyText.names, NameText.name]

/-- Entries line by line make a document. -/
lemma exists_document (es : List EntryText) : ∃ d : Document, d.entries = es := by
  refine ⟨{ rows := es.map fun e => (.lineFeed, { content := .entry e {} }) }, ?_⟩
  simp [Document.entries, Content.entries, Rows.entries, List.flatMap_map]

/-- Settings whose numbers 64 bits hold are made by some document, in their order. -/
theorem exists_document_makes (settings : List Setting)
    (h : ∀ n, .number n ∈ settings.map Setting.datum → n < 2 ^ 63) :
    ∃ d : Document, List.Forall₂ Makes d.entries settings := by
  have hes : ∃ es, List.Forall₂ Makes es settings := by
    induction settings with
    | nil => exact ⟨[], .nil⟩
    | cons setting settings ih =>
      obtain ⟨e, he⟩ := exists_makes setting fun n hn => h n (by simp [hn])
      obtain ⟨es, hes⟩ := ih fun n hn => h n (List.mem_cons_of_mem _ hn)
      exact ⟨e :: es, .cons he hes⟩
  obtain ⟨es, hes⟩ := hes
  obtain ⟨d, rfl⟩ := exists_document es
  exact ⟨d, hes⟩

/-! ### Reading documents of settings -/

/-- What an entry was read as sets a field: its key is the name of the field, and its value means the datum. -/
def Sets (read : Entry) (setting : Setting) : Prop :=
  read.path = [] ∧ read.key.name = setting.field.name ∧ Means read.value setting.datum

/-- A key of a single name has no names on the way. -/
lemma of_names_eq_singleton {read : Entry} {name : String} (h : read.names = [name]) :
    read.path = [] ∧ read.key.name = name := by
  cases hpath : read.path with
  | nil =>
    rw [Entry.names, hpath] at h
    exact ⟨rfl, (List.cons.inj h).1⟩
  | cons key path =>
    rw [Entry.names, hpath] at h
    have hlength := congrArg List.length h
    simp at hlength

/-- Each element of a list has one of the other list that goes with it. -/
lemma exists_of_forall₂ {α β : Type} {R : α → β → Prop} {as : List α} {bs : List β} (h : List.Forall₂ R as bs)
    {a : α} (ha : a ∈ as) : ∃ b ∈ bs, R a b := by
  induction h with
  | nil => cases ha
  | cons hfirst _ ih =>
    rcases List.mem_cons.mp ha with rfl | ha
    · exact ⟨_, List.mem_cons_self, hfirst⟩
    · obtain ⟨b, hb, hab⟩ := ih ha
      exact ⟨b, List.mem_cons_of_mem _ hb, hab⟩

/-- Lists whose elements go with each other have the same aspects. -/
lemma map_eq_of_forall₂ {α β γ : Type} {R : α → β → Prop} {f : α → γ} {g : β → γ}
    (hR : ∀ a b, R a b → f a = g b) {as : List α} {bs : List β} (h : List.Forall₂ R as bs) :
    as.map f = bs.map g := by
  induction h with
  | nil => rfl
  | cons hfirst _ ih => rw [List.map_cons, List.map_cons, hR _ _ hfirst, ih]

/-- Entries that make settings are read as what sets the fields. -/
lemma sets_of_makes {es : List EntryText} {settings : List Setting} {read : List Entry}
    (hmakes : List.Forall₂ Makes es settings) (hreads : List.Forall₂ EntryText.Reads es read) :
    List.Forall₂ Sets read settings := by
  induction hmakes generalizing read with
  | nil =>
    cases hreads
    exact .nil
  | cons hfirst _ ih =>
    cases hreads with
    | cons hread hreads =>
      obtain ⟨hpath, hname⟩ := of_names_eq_singleton (hread.1.trans hfirst.1)
      exact .cons ⟨hpath, hname, means_of_spells hfirst.2 hread.2⟩ (ih hreads)

/-- Entries that set fields are read into a draft setting by setting. -/
lemma foldlM_readEntry_of_sets {read : List Entry} {settings : List Setting}
    (h : List.Forall₂ Sets read settings) (draft : Draft) :
    (read.map fun e => (e.key, Item.value e.value e.span)).foldlM Draft.readEntry draft =
      .ok (settings.foldl Draft.set draft) := by
  induction h generalizing draft with
  | nil => rfl
  | @cons e setting read settings hfirst _ ih =>
    have hread : draft.readEntry (e.key, .value e.value e.span) = .ok (draft.set setting) := by
      simp only [Draft.readEntry, ofName?_eq_some_iff.mpr hfirst.2.1]
      exact read_of_means hfirst.2.2
    exact foldlM_cons_eq_ok.mpr ⟨_, hread, ih _⟩

/-- Different fields have different names. -/
lemma name_injective : Function.Injective Field.name := by
  intro f f' h
  have hf : Field.ofName? f.name = some f := ofName?_eq_some_iff.mpr rfl
  rw [h, ofName?_eq_some_iff.mpr rfl] at hf
  exact (Option.some.inj hf).symm

/-- A document that makes the settings of an assignment is read as what comes of the assignment. -/
theorem outcome_of_makes {d : Document} {a : Assignment} {settings : List Setting}
    (hmakes : List.Forall₂ Makes d.entries settings) (hperm : settings.Perm a.settings) :
    a.Outcome (parse d.text) := by
  obtain ⟨read, hreads, hparse⟩ := exists_parse_eq d
  have hsets := sets_of_makes hmakes hreads
  have hnodup : (read.map (·.key.name)).Nodup := by
    have hnames := map_eq_of_forall₂ (g := Field.name ∘ Setting.field) (fun e setting hset => hset.2.1) hsets
    rw [hnames, ← List.map_map]
    exact ((hperm.map _).nodup_iff.mpr (nodup_settings a)).map name_injective
  have hflat : ∀ e ∈ read, e.path = [] := by
    intro e he
    obtain ⟨setting, -, hset⟩ := exists_of_forall₂ hsets he
    exact hset.1
  have hempty : (Toml.Draft.empty d.chars).current.Lists [] :=
    ⟨List.forall_mem_nil _, List.nodup_nil, rfl⟩
  obtain ⟨draft, hfold, hlists⟩ := foldlM_add_of_nodup hempty rfl hflat hnodup
  rw [hfold] at hparse
  have htable : ofTable draft.current ⟨d.text.toList, d.text.toList⟩ = .ok a.config := by
    simp only [ofTable, hlists.entries, List.nil_append]
    rw [foldlM_readEntry_of_sets hsets, foldl_set_of_perm hperm (nodup_settings a), foldl_settings]
    rfl
  simp only [parse, hparse, htable]
  exact outcome_validate a

/-! ### Documents that are no configuration -/

/-- A document that must not be read as a configuration. -/
inductive Defective (d : Document) : Prop
  /-- The binary is left out. -/
  | missing (h : ∀ e ∈ d.entries, e.key.names ≠ [Field.binary.name])
  /-- A key is not the name of a field. -/
  | unknown (e : EntryText) (he : e ∈ d.entries) (h : ∀ f : Field, e.key.names ≠ [f.name])
  /-- A key comes twice. -/
  | repeated (h : ¬ (d.entries.map (·.key.names)).Nodup)
  /-- A value is of a type that its field does not have. -/
  | mistyped (e : EntryText) (he : e ∈ d.entries) (f : Field) (hname : e.key.names = [f.name])
    (h : ∀ v, e.literal.Reads v → ¬ Suits v f)
  /-- A value is a negative number. -/
  | negative (e : EntryText) (he : e ∈ d.entries) (decimal : Decimal) (hfits : decimal.Fits)
    (h : e.literal = .ofDecimal decimal hfits) (hvalue : decimal.value < 0)

/-- An item of a table stands for a field: its key is the name of the field, and its value suits the field. -/
def StandsFor (x : Key × Item) (f : Field) : Prop :=
  x.1.name = f.name ∧ ∃ v span, x.2 = .value v span ∧ Suits v f

/-- An item that is read into a draft stands for a field, and for the binary if the draft did not have one. -/
lemma of_readEntry_eq_ok {x : Key × Item} {draft draft' : Draft} (hitem : ∀ tables, x.2 ≠ .tables tables)
    (h : draft.readEntry x = .ok draft') :
    ∃ f, StandsFor x f ∧ (draft'.binary.isSome → f = .binary ∨ draft.binary.isSome) := by
  rw [Draft.readEntry] at h
  split at h
  · next f hname =>
    obtain ⟨v, span, setting, hvalue, rfl, hmeans, rfl⟩ := of_read_eq_ok hitem h
    refine ⟨setting.field, ⟨ofName?_eq_some_iff.mp hname, v, span, hvalue, setting, rfl, hmeans⟩, ?_⟩
    cases setting with
    | binary => exact fun _ => .inl rfl
    | _ => exact .inr
  · cases h

/-- Items that are read into a draft stand for fields, and one for the binary if the draft has one. -/
lemma of_foldlM_readEntry {items : List (Key × Item)} (hitems : ∀ x ∈ items, ∀ tables, x.2 ≠ .tables tables)
    {draft : Draft} (h : items.foldlM Draft.readEntry {} = .ok draft) :
    (∀ x ∈ items, ∃ f, StandsFor x f) ∧ (draft.binary.isSome → ∃ x ∈ items, StandsFor x .binary) := by
  refine of_foldlM_eq_ok (P := fun before draft =>
    (∀ x ∈ before, ∃ f, StandsFor x f) ∧ (draft.binary.isSome → ∃ x ∈ before, StandsFor x .binary)) ?_ ?_ h
  · rintro before x hx draft draft' ⟨hstand, hbinary⟩ hread
    obtain ⟨f, hf, hlast⟩ := of_readEntry_eq_ok (hitems x hx) hread
    refine ⟨fun y hy => ?_, fun hsome => ?_⟩
    · rcases List.mem_append.mp hy with hy | hy
      · exact hstand y hy
      · exact ⟨f, List.mem_singleton.mp hy ▸ hf⟩
    · rcases hlast hsome with rfl | hsome
      · exact ⟨x, List.mem_append_right _ (List.mem_singleton_self x), hf⟩
      · obtain ⟨y, hy, hstands⟩ := hbinary hsome
        exact ⟨y, List.mem_append_left _ hy, hstands⟩
  · exact ⟨List.forall_mem_nil _, nofun⟩

/-- A table that is read as a configuration has items that stand for fields only, one of them for the binary. -/
lemma of_ofTable_eq_ok {t : Table} {whole : Span} {c : Config} (ht : t.Unrepeated)
    (h : ofTable t whole = .ok c) :
    (∀ x ∈ t.entries, ∃ f, StandsFor x f) ∧ ∃ x ∈ t.entries, StandsFor x .binary := by
  obtain ⟨draft, hfold, h⟩ := of_bind_eq_ok h
  obtain ⟨hall, hbinary⟩ := of_foldlM_readEntry ht hfold
  refine ⟨hall, hbinary ?_⟩
  cases hpath : draft.binary with
  | some path => rfl
  | none =>
    simp only [hpath] at h
    cases h

/-- A document that is read as a configuration has entries for fields only, with values that suit them; no key
comes twice, and the binary is not left out. -/
theorem of_parse_eq_ok {d : Document} {c : Config} (h : parse d.text = .ok c) : ∃ read,
    List.Forall₂ EntryText.Reads d.entries read ∧ (read.map Entry.names).Nodup ∧
      (∀ e ∈ read, ∃ f : Field, e.names = [f.name] ∧ Suits e.value f) ∧
      ∃ e ∈ read, e.names = [Field.binary.name] := by
  obtain ⟨read, hreads, hparse⟩ := exists_parse_eq d
  refine ⟨read, hreads, ?_⟩
  cases hfold : read.foldlM Toml.Draft.add (Toml.Draft.empty d.chars) with
  | error objection =>
    rw [hfold] at hparse
    obtain ⟨fault, hfault⟩ := hparse
    simp only [parse, hfault] at h
    cases h
  | ok draft =>
    rw [hfold] at hparse
    simp only [parse, hparse] at h
    cases htable : ofTable draft.current ⟨d.text.toList, d.text.toList⟩ with
    | error misfit =>
      rw [htable] at h
      cases h
    | ok c' =>
      have hgrown := grown_of_foldlM_add hfold
      obtain ⟨hall, hbinary⟩ := of_ofTable_eq_ok hgrown.unrepeated htable
      have hlists : draft.current.Lists read := by
        refine hgrown.shape.resolve_left ?_
        rintro ⟨x, hx, origin, entries, hnested⟩
        obtain ⟨f, -, v, span, hvalue, -⟩ := hall x hx
        rw [hnested] at hvalue
        cases hvalue
      have hnames : ∀ e ∈ read, e.names = [e.key.name] := by
        intro e he
        rw [Entry.names, hlists.flat e he]
        rfl
      rw [hlists.entries] at hall hbinary
      refine ⟨?_, fun e he => ?_, ?_⟩
      · rw [List.map_congr_left hnames, ← Function.comp_def (fun name => [name]), ← List.map_map]
        exact hlists.nodup.map (fun _ _ h => (List.cons.inj h).1)
      · obtain ⟨f, hname, v, span, hvalue, hsuits⟩ := hall _ (List.mem_map_of_mem he)
        obtain ⟨rfl, -⟩ := Item.value.inj hvalue
        exact ⟨f, (hnames e he).trans (congrArg (fun name => [name]) hname), hsuits⟩
      · obtain ⟨x, hx, hname, -⟩ := hbinary
        obtain ⟨e, he, rfl⟩ := List.mem_map.mp hx
        exact ⟨e, he, (hnames e he).trans (congrArg (fun name => [name]) hname)⟩

/-- Whatever is wrong with a text, the failure is one of the configuration. -/
lemma kind_of_parse_eq_error {text : String} {failure : Failure} (h : parse text = .error failure) :
    failure.kind = .config := by
  unfold parse at h
  split at h
  · obtain rfl := Except.error.inj h
    rfl
  · split at h
    · obtain rfl := Except.error.inj h
      rfl
    · unfold validate at h
      split at h
      · cases h
      · obtain rfl := Except.error.inj h
        rfl

/-- A document that must not be read as a configuration is refused. -/
theorem parse_of_defective {d : Document} (h : Defective d) :
    ∃ failure, parse d.text = .error failure ∧ failure.kind = .config := by
  cases hparse : parse d.text with
  | error failure => exact ⟨failure, rfl, kind_of_parse_eq_error hparse⟩
  | ok c =>
    exfalso
    obtain ⟨read, hreads, hnodup, hall, x, hx, hbinary⟩ := of_parse_eq_ok hparse
    cases h with
    | missing h =>
      obtain ⟨e, he, hread⟩ := exists_of_forall₂ hreads.flip hx
      exact h e he (hread.1.symm.trans hbinary)
    | unknown e he h =>
      obtain ⟨x, hx, hread⟩ := exists_of_forall₂ hreads he
      obtain ⟨f, hname, -⟩ := hall x hx
      exact h f (hread.1.symm.trans hname)
    | repeated h =>
      rw [map_eq_of_forall₂ (g := Entry.names) (fun e read hread => hread.1.symm) hreads] at h
      exact h hnodup
    | mistyped e he f hname h =>
      obtain ⟨x, hx, hread⟩ := exists_of_forall₂ hreads he
      obtain ⟨f', hname', hsuits⟩ := hall x hx
      rw [hread.1, hname, List.cons.injEq] at hname'
      obtain rfl := name_injective hname'.1
      exact h x.value hread.2 hsuits
    | negative e he decimal hfits h hvalue =>
      obtain ⟨x, hx, -, hread⟩ := exists_of_forall₂ hreads he
      obtain ⟨f, -, setting, -, hmeans⟩ := hall x hx
      rw [h] at hread
      rw [Literal.eq_of_reads_ofDecimal hread] at hmeans
      cases hdatum : setting.datum with
      | number n =>
        rw [hdatum] at hmeans
        have hn : decimal.value = n := hmeans
        omega
      | _ =>
        rw [hdatum] at hmeans
        cases hmeans

/-- Every assignment can be written, in every order of its settings; every document that makes them is read as
what comes of the assignment; and documents that must not be read as a configuration are refused. -/
theorem parse_document :
    (∀ (a : Assignment) (settings : List Setting), a.Fits → settings.Perm a.settings →
      ∃ d : Document, List.Forall₂ Makes d.entries settings) ∧
    (∀ (d : Document) (a : Assignment) (settings : List Setting), List.Forall₂ Makes d.entries settings →
      settings.Perm a.settings → a.Outcome (parse d.text)) ∧
    ∀ d : Document, Defective d → ∃ failure, parse d.text = .error failure ∧ failure.kind = .config := by
  refine ⟨fun a settings hfits hperm => ?_, fun d a settings => outcome_of_makes, fun d => parse_of_defective⟩
  exact exists_document_makes settings fun n hn => hfits n ((hperm.map _).mem_iff.mp hn)

/-- A small document with a comment, an empty line and escapes. -/
def sample : Document where
  first := {
    content := .entry {
        key := {
          first := .bare "max_line_bytes".toList (List.cons_ne_nil _ _) (List.all_eq_true.mp rfl)
          behind := { chars := [' '] } }
        literal := .ofDecimal {
          first := '7', first_digit := rfl, more_digits := by simp, no_leading_zero := fun _ => rfl }
            ⟨by decide, by decide⟩ }
      { blanks := { chars := [' '] }, comment := some ⟨['!'], List.all_eq_true.mp rfl⟩ } }
  rows := [
    (.carriageReturn, {}),
    (.lineFeed, {
      content := .entry {
          key := { first := .basic (piecesOf "binary") }
          literal := .ofPieces
            [.short .backslash, .code .four ['0', '0', '6', '1'] rfl (List.all_eq_true.mp rfl) (by decide)] }
        {} })]

/-- A small document whose binary is a truth value. -/
def misfitSample : Document where
  first := {
    content := .entry {
        key := { first := .bare "binary".toList (List.cons_ne_nil _ _) (List.all_eq_true.mp rfl) }
        literal := { chars := ['t', 'r', 'u', 'e'], isValue := fun _ _ => ⟨.boolean true, rfl⟩ } }
      {} }

/-- Settings that can be written, a document of them, and one whose binary has the wrong type. -/
theorem parse_document_of_samples :
    (∃ d : Document, List.Forall₂ Makes d.entries [.maxLineBytes 7, .binary "\\a"]) ∧
    parse "max_line_bytes =7 #!\x0d\n\n\"binary\"=\"\\\\\\u0061\"" =
      .ok { binary := .path "\\a", maxLineBytes := 7 } ∧
    ∃ failure, parse "binary=true" = .error failure ∧ failure.kind = .config := by
  have hperm : [Setting.maxLineBytes 7, .binary "\\a"].Perm
      (Assignment.settings { binary := "\\a", maxLineBytes := some 7 }) := .swap _ _ _
  refine ⟨parse_document.1 _ _ ?_ hperm, ?_, ?_⟩
  · intro n hn
    simp [Assignment.settings, Setting.datum] at hn
    omega
  · have hmakes : List.Forall₂ Makes sample.entries [.maxLineBytes 7, .binary "\\a"] := by
      refine .cons ⟨?_, .number _ ⟨by decide, by decide⟩ 7 rfl⟩ (.cons ⟨?_, .text _⟩ .nil)
      · exact congrArg (fun name => [name]) String.ofList_toList
      · exact congrArg (fun name => [name]) (textOf_piecesOf "binary")
    have houtcome := parse_document.2.1 sample _ _ hmakes hperm
    rw [show sample.text = "max_line_bytes =7 #!\x0d\n\n\"binary\"=\"\\\\\\u0061\"" from
      String.toList_inj.mp (by rw [Document.text, String.toList_ofList]; rfl)] at houtcome
    exact houtcome
  · have hrefused := parse_document.2.2 misfitSample ?_
    · rwa [show misfitSample.text = "binary=true" from
        String.toList_inj.mp (by rw [Document.text, String.toList_ofList]; rfl)] at hrefused
    · have hname : [String.ofList "binary".toList] = [Field.binary.name] :=
        congrArg (fun name => [name]) String.ofList_toList
      refine .mistyped _ (List.mem_singleton_self _) .binary hname ?_
      rintro v ⟨s, -, hread⟩ ⟨setting, hfield, hmeans⟩
      obtain rfl : Value.boolean true = v := (Prod.mk.inj (Except.ok.inj hread)).1
      cases setting <;> cases hmeans

end Traversal.Config
