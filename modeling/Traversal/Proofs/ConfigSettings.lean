import Mathlib
import Traversal.Config.Reader
import Traversal.Proofs.TomlDocument

/-!
# What the entries of a configuration file set

A `Setting` is a field with a datum of the field's kind.  A value is read into a draft as a setting whose datum
it means, and refused if there is none (`read_of_means`, `of_read_eq_ok`).  Settings of different fields can be
made in any order (`foldl_set_of_perm`).
-/

namespace Traversal.Config

open Toml

/-! ### Settings -/

/-- What an entry says about its field: a text, a list of texts or a number. -/
inductive Datum
  | text (s : String)
  | texts (l : List String)
  | number (n : Nat)
deriving DecidableEq, Repr

/-- A field with what it is set to. -/
inductive Setting
  | binary (path : String)
  | extraArgs (args : List String)
  | maxLineBytes (n : Nat)
  | errorQueueCapacity (n : Nat)
  | inboundQueueCapacity (n : Nat)
  | shutdownGrace (n : Nat)
deriving DecidableEq, Repr

namespace Setting

/-- The field that is set. -/
def field : Setting → Field
  | binary _ => .binary
  | extraArgs _ => .extraArgs
  | maxLineBytes _ => .maxLineBytes
  | errorQueueCapacity _ => .errorQueueCapacity
  | inboundQueueCapacity _ => .inboundQueueCapacity
  | shutdownGrace _ => .shutdownGrace

/-- What the field is set to. -/
def datum : Setting → Datum
  | binary path => .text path
  | extraArgs args => .texts args
  | maxLineBytes n => .number n
  | errorQueueCapacity n => .number n
  | inboundQueueCapacity n => .number n
  | shutdownGrace n => .number n

end Setting

/-- A value of a document means a datum. -/
def Means : Value → Datum → Prop
  | .text s, .text s' => s = s'
  | .list elements, .texts l => elements.map (·.1) = l.map .text
  | .integer n, .number m => n = m
  | _, _ => False

/-- A value can stand for a field: it means a datum of the field's kind. -/
def Suits (v : Value) (f : Field) : Prop :=
  ∃ setting : Setting, setting.field = f ∧ Means v setting.datum

/-- Makes a setting in a draft. -/
def Draft.set (draft : Draft) : Setting → Draft
  | .binary path => { draft with binary := some path }
  | .extraArgs args => { draft with settings := { draft.settings with extraArgs := args } }
  | .maxLineBytes n => { draft with settings := { draft.settings with maxLineBytes := n } }
  | .errorQueueCapacity n => { draft with settings := { draft.settings with errorQueueCapacity := n } }
  | .inboundQueueCapacity n => { draft with settings := { draft.settings with inboundQueueCapacity := n } }
  | .shutdownGrace n => { draft with settings := { draft.settings with shutdownGrace := n } }

/-! ### Reading a field -/

variable {key : Key} {item : Item} {draft draft' : Draft} {span : Span}

/-- A key that is the name of a field is known as this field, and no other key is. -/
lemma ofName?_eq_some_iff {text : String} {f : Field} : Field.ofName? text = some f ↔ text = f.name := by
  constructor
  · intro h
    have hname := List.find?_some h
    exact (of_decide_eq_true hname).symm
  · rintro rfl
    cases f <;> rfl

/-- Elements are read one by one if each is read exactly where two of its aspects agree. -/
lemma mapM_eq_ok_iff {α β γ ε : Type} {f : α → Except ε β} {p : α → γ} {q : β → γ}
    (h : ∀ a b, f a = .ok b ↔ p a = q b) {as : List α} {bs : List β} :
    as.mapM f = .ok bs ↔ as.map p = bs.map q := by
  induction as generalizing bs with
  | nil =>
    cases bs with
    | nil => exact iff_of_true rfl rfl
    | cons b bs => exact iff_of_false nofun nofun
  | cons a as ih =>
    rw [List.mapM_cons, List.map_cons]
    constructor
    · intro hread
      obtain ⟨b, hfirst, hread⟩ := of_bind_eq_ok hread
      obtain ⟨bs', hrest, hread⟩ := of_bind_eq_ok hread
      rw [← Except.ok.inj hread, List.map_cons, (h a b).mp hfirst, ih.mp hrest]
    · intro hsame
      cases bs with
      | nil => cases hsame
      | cons b bs =>
        obtain ⟨hfirst, hrest⟩ := List.cons.inj hsame
        rw [(h a b).mpr hfirst, ih.mpr hrest]
        rfl

/-- A list is read as texts if its elements are these texts, and only then. -/
lemma readTexts_list_iff {elements : List (Value × Span)} {l : List String} :
    readTexts key (.value (.list elements) span) = .ok l ↔ elements.map (·.1) = l.map .text := by
  refine mapM_eq_ok_iff fun e s => ?_
  obtain ⟨v, span⟩ := e
  cases v with
  | text s' =>
    constructor
    · intro h
      exact congrArg Value.text (Except.ok.inj h)
    · intro h
      exact congrArg Except.ok (Value.text.inj h)
  | _ => exact iff_of_false nofun nofun

/-- What is read as texts is a list of texts, unless it is a table of a repeated header. -/
lemma of_readTexts_eq_ok {l : List String} (hitem : ∀ tables, item ≠ .tables tables)
    (h : readTexts key item = .ok l) :
    ∃ elements span, item = .value (.list elements) span ∧ elements.map (·.1) = l.map .text := by
  cases item with
  | value v span =>
    cases v with
    | list elements => exact ⟨elements, span, rfl, readTexts_list_iff.mp h⟩
    | _ => cases h
  | table origin entries => cases h
  | tables tables => exact absurd rfl (hitem tables)

/-- What is read as a number is a number that is not negative. -/
lemma of_readNatural_eq_ok {type : String} {n : Nat} (h : readNatural type key item = .ok n) :
    ∃ span, item = .value (.integer n) span := by
  cases item with
  | value v span =>
    cases v with
    | integer m =>
      rw [readNatural] at h
      split at h
      · cases h
      · next hsign =>
        refine ⟨span, ?_⟩
        rw [← Except.ok.inj h, Int.toNat_of_nonneg (Int.not_lt.mp hsign)]
    | _ => cases h
  | _ => cases h

/-- A number that is not negative is read as this number. -/
lemma readNatural_integer (type : String) (key : Key) (n : Nat) (span : Span) :
    readNatural type key (.value (.integer n) span) = .ok n := by
  rw [readNatural, if_neg (by omega), Int.toNat_natCast]

/-- What is read as a file name is a text. -/
lemma of_readPath_eq_ok {path : String} (h : readPath key item = .ok path) :
    ∃ span, item = .value (.text path) span := by
  cases item with
  | value v span =>
    cases v with
    | text s => exact ⟨span, by rw [← Except.ok.inj h]⟩
    | _ => cases h
  | _ => cases h

/-- A value that means the datum of a setting is read as this setting. -/
theorem read_of_means {v : Value} {setting : Setting} (h : Means v setting.datum) :
    draft.read setting.field key (.value v span) = .ok (draft.set setting) := by
  cases setting with
  | binary path =>
    cases v with
    | text s =>
      obtain rfl : s = path := h
      rfl
    | _ => cases h
  | extraArgs args =>
    cases v with
    | list elements =>
      simp only [Setting.field, Draft.read, readTexts_list_iff.mpr h]
      rfl
    | _ => cases h
  | _ n =>
    cases v with
    | integer m =>
      obtain rfl : m = n := h
      simp only [Setting.field, Draft.read, readNatural_integer]
      rfl
    | _ => cases h

/-- What is read into a field is a value that means the datum of a setting of this field. -/
theorem of_read_eq_ok {f : Field} (hitem : ∀ tables, item ≠ .tables tables)
    (h : draft.read f key item = .ok draft') : ∃ (v : Value) (span : Span) (setting : Setting),
      item = .value v span ∧ setting.field = f ∧ Means v setting.datum ∧ draft' = draft.set setting := by
  cases f with
  | binary =>
    obtain ⟨path, hread, rfl⟩ := of_map_eq_ok h
    obtain ⟨span, rfl⟩ := of_readPath_eq_ok hread
    exact ⟨_, span, .binary path, rfl, rfl, rfl, rfl⟩
  | extraArgs =>
    obtain ⟨args, hread, rfl⟩ := of_map_eq_ok h
    obtain ⟨elements, span, rfl, hargs⟩ := of_readTexts_eq_ok hitem hread
    exact ⟨_, span, .extraArgs args, rfl, rfl, hargs, rfl⟩
  | maxLineBytes =>
    obtain ⟨n, hread, rfl⟩ := of_map_eq_ok h
    obtain ⟨span, rfl⟩ := of_readNatural_eq_ok hread
    exact ⟨_, span, .maxLineBytes n, rfl, rfl, rfl, rfl⟩
  | errorQueueCapacity =>
    obtain ⟨n, hread, rfl⟩ := of_map_eq_ok h
    obtain ⟨span, rfl⟩ := of_readNatural_eq_ok hread
    exact ⟨_, span, .errorQueueCapacity n, rfl, rfl, rfl, rfl⟩
  | inboundQueueCapacity =>
    obtain ⟨n, hread, rfl⟩ := of_map_eq_ok h
    obtain ⟨span, rfl⟩ := of_readNatural_eq_ok hread
    exact ⟨_, span, .inboundQueueCapacity n, rfl, rfl, rfl, rfl⟩
  | shutdownGrace =>
    obtain ⟨n, hread, rfl⟩ := of_map_eq_ok h
    obtain ⟨span, rfl⟩ := of_readNatural_eq_ok hread
    exact ⟨_, span, .shutdownGrace n, rfl, rfl, rfl, rfl⟩

/-! ### The order of settings -/

/-- Settings of different fields can be made in either order. -/
lemma set_set {setting setting' : Setting} (h : setting.field ≠ setting'.field) (draft : Draft) :
    (draft.set setting).set setting' = (draft.set setting').set setting := by
  cases setting <;> cases setting' <;> first | rfl | exact absurd rfl h

/-- Settings of different fields can be made in any order. -/
theorem foldl_set_of_perm {settings settings' : List Setting} (hperm : settings.Perm settings')
    (hnodup : (settings'.map Setting.field).Nodup) (draft : Draft) :
    settings.foldl Draft.set draft = settings'.foldl Draft.set draft := by
  refine hperm.foldl_eq' ?_ draft
  intro setting hsetting setting' hsetting' draft
  by_cases hfield : setting.field = setting'.field
  · obtain rfl := List.inj_on_of_nodup_map ((hperm.map _).nodup_iff.mpr hnodup) hsetting hsetting' hfield
    rfl
  · exact set_set hfield draft

end Traversal.Config
