import Mathlib
import Traversal.Proofs.JsonExtent
import Traversal.Proofs.PathText

/-!
# Which objects describe a path

An object describes a path if it has one member each of the three names with a value of the right shape
(`Json.ObjectText.Describes`).  Where the blanks are, how strings are spelled, in which order the members
come and what else the object has makes no difference.  `readResult_object` says that a record is read so.

Each reader that takes part has a lemma that says what it makes of any value, as an option: what is read and
what is left, or nothing if it refuses the value.  `toOption_readMembers` puts them together along the
members of an object: the reader collects members into a draft.  `collect_complete_iff` says what that
amounts to, whatever the order.
-/

namespace Traversal

open Json

/-! ### What values stand for -/

namespace Json

/-- The text of a value that is a string. -/
def Value.text? : Value → Option String
  | .string pieces => Json.text? pieces
  | _ => none

/-- The protocol that a value stands for: its name, or an object whose only member has that name and is
null. -/
def Value.protocol? : Value → Option Protocol
  | .string pieces => (Json.text? pieces).bind Protocol.ofName?
  | .object _ (.cons _ name _ _ .null _ .nil) => (Json.text? name).bind Protocol.ofName?
  | _ => none

/-- The members of an object, in order, each with the text that its name stands for.  A name with half a
surrogate pair stands for none. -/
def Entries.members : Entries → List (Option String × Value)
  | .nil => []
  | .cons _ name _ _ value _ rest => (Json.text? name, value) :: rest.members

/-- The values of all members with a name. -/
def valuesOf (name : String) (members : List (Option String × Value)) : List Value :=
  members.filterMap fun m => if m.1 = some name then some m.2 else none

/-- A text that is an object between blanks. -/
structure ObjectText where
  before : List Blank
  inner : List Blank
  entries : Entries
  after : List Blank

namespace ObjectText

/-- The bytes of the text. -/
def bytes (o : ObjectText) : Bytes :=
  blanks o.before ++ ((Value.object o.inner o.entries).bytes ++ blanks o.after)

/-- The values of all members with a name. -/
def values (o : ObjectText) (name : String) : List Value :=
  valuesOf name o.entries.members

/-- The name of each member stands for a text. -/
def IsNamed (o : ObjectText) : Prop :=
  ∀ m ∈ o.entries.members, m.1.isSome = true

instance (o : ObjectText) : Decidable o.IsNamed :=
  inferInstanceAs (Decidable (∀ m ∈ o.entries.members, m.1.isSome = true))

/-- The object has each member of a path once, and their values stand for those of the path. -/
structure Describes (o : ObjectText) (t : FiveTuple) : Prop where
  isNamed : o.IsNamed
  protocol : ∃ v, o.values "proto" = [v] ∧ v.protocol? = some t.protocol
  localEnd : ∃ v, o.values "local" = [v] ∧ v.text? = some t.localEnd
  remoteEnd : ∃ v, o.values "remote" = [v] ∧ v.text? = some t.remoteEnd

end ObjectText

/-! ### Reading one value -/

section Values

variable {α β : Type}

/-- What a reader makes of what another one has read. -/
lemma toOption_bind (x : Except Misread α) (f : α → Except Misread β) :
    (x >>= f).toOption = x.toOption.bind fun a => (f a).toOption := by
  cases x <;> rfl

lemma toOption_map (x : Except Misread α) (f : α → β) : (x.map f).toOption = x.toOption.map f := by
  cases x <;> rfl

/-- A colon is read behind blanks. -/
lemma colon_blanks (gap : List Blank) (rest : Bytes) : colon (blanks gap ++ 58 :: rest) = .ok rest := by
  rw [colon, skipBlank_blanks_cons gap (by decide)]
  rfl

variable (v : Value) (gap : List Blank) (rest : Bytes)

/-- A string is read as its text, and no other value is. -/
lemma toOption_readText :
    (readText (blanks gap ++ (v.bytes ++ rest))).toOption = v.text?.map (·, rest) := by
  obtain ⟨b, tail, hbytes, -, -, hstring, -⟩ := v.exists_bytes_eq_cons
  unfold readText
  rw [skipBlank_value]
  by_cases hb : b = 34
  · obtain ⟨pieces, rfl⟩ := hstring hb
    rw [Value.bytes, List.cons_append, List.append_assoc, List.singleton_append]
    exact toOption_readString pieces rest
  · have htext : v.text? = none := by
      cases v with
      | string pieces => simp_all [Value.bytes]
      | null | boolean value | number n | list inner elements | object inner entries => rfl
    rw [hbytes, htext, List.cons_append]
    simp only [hb, if_false]
    rfl

/-- Null is read, and no other value is. -/
lemma toOption_readNull :
    (readNull (blanks gap ++ (v.bytes ++ rest))).toOption =
      match v with | .null => some rest | _ => none := by
  obtain ⟨b, tail, hbytes, -, -, -, -, hnull⟩ := v.exists_bytes_eq_cons
  unfold readNull
  rw [skipBlank_value]
  by_cases hb : b = 110
  · obtain rfl := hnull hb
    rfl
  · rw [hbytes, List.cons_append]
    simp only [hb, if_false]
    split
    · simp_all [Value.bytes]
    · rfl

end Values

end Json

namespace FiveTuple

/-! ### Reading a protocol -/

lemma toOption_protocolOf (name : String) (rest : Bytes) :
    (protocolOf name rest).toOption = (Protocol.ofName? name).map (·, rest) := by
  unfold protocolOf
  split
  · next heq =>
    rw [heq]
    rfl
  · next heq =>
    rw [heq]
    rfl

/-- Behind its only member, a protocol that is an object is closed. -/
lemma toOption_closeProtocol (gap : List Blank) (more : Entries) (rest : Bytes) :
    (closeProtocol (blanks gap ++ (Entries.bytes false more ++ 125 :: rest))).toOption =
      match more with | .nil => some rest | _ => none := by
  unfold closeProtocol
  cases more with
  | nil =>
    rw [Entries.bytes, List.nil_append, skipBlank_blanks_cons gap (by decide)]
    rfl
  | cons before name beforeColon afterColon value after more =>
    simp only [Entries.bytes, comma, Bool.false_eq_true, if_false, List.cons_append, List.nil_append]
    rw [skipBlank_blanks_cons gap (by decide)]
    rfl

/-- A protocol that is an object is read if it has one member, which has its name and is null. -/
lemma toOption_readProtocolObject (gap : List Blank) (entries : Entries) (rest : Bytes) :
    (readProtocolObject (blanks gap ++ (Entries.bytes true entries ++ 125 :: rest))).toOption =
      (Value.object gap entries).protocol?.map (·, rest) := by
  unfold readProtocolObject readProtocolName
  cases entries with
  | nil =>
    rw [Entries.bytes, List.nil_append, skipBlank_blanks_cons gap (by decide)]
    rfl
  | cons before name beforeColon afterColon value after more =>
    simp only [Entries.bytes, comma, if_true, List.nil_append, List.cons_append, List.append_assoc]
    rw [← blanks_append, skipBlank_blanks_cons (gap ++ before) (by decide)]
    simp only [if_true, toOption_bind, toOption_readString]
    cases htext : Json.text? name with
    | none => cases value <;> cases more <;> simp [Value.protocol?, htext]
    | some text =>
      simp only [Option.map_some, Option.bind_some, toOption_protocolOf]
      cases hprotocol : Protocol.ofName? text with
      | none => cases value <;> cases more <;> simp [Value.protocol?, htext, hprotocol]
      | some p =>
        have hcolon : ∀ rest, (colon (blanks beforeColon ++ 58 :: rest)).toOption = some rest :=
          fun rest => by rw [colon_blanks]; rfl
        simp only [Option.map_some, Option.bind_some, hcolon, toOption_readNull]
        cases value with
        | null =>
          simp only [Option.bind_some, toOption_closeProtocol]
          cases more <;> simp [Value.protocol?, htext, hprotocol, Except.toOption]
        | boolean value | number n | string pieces | list inner elements | object inner entries => rfl

/-- A protocol is read from every value that stands for one, and from no other. -/
lemma toOption_readProtocol (v : Value) (gap : List Blank) (rest : Bytes) :
    (readProtocol (blanks gap ++ (v.bytes ++ rest))).toOption = v.protocol?.map (·, rest) := by
  obtain ⟨b, tail, hbytes, -, -, hstring, hobject, -⟩ := v.exists_bytes_eq_cons
  unfold readProtocol
  rw [skipBlank_value]
  by_cases hb : b = 34
  · obtain ⟨pieces, rfl⟩ := hstring hb
    have hread := toOption_readString pieces rest
    rw [Value.bytes, List.cons_append, List.append_assoc, List.singleton_append]
    simp only [if_true, Value.protocol?]
    cases htext : Json.text? pieces with
    | none =>
      rw [htext] at hread
      split
      · next heq => simp [heq, Except.toOption] at hread
      · rfl
    | some text =>
      rw [htext] at hread
      split
      · next heq =>
        obtain ⟨rfl, rfl⟩ : _ = text ∧ _ = rest := by simpa [heq, Except.toOption] using hread
        exact toOption_protocolOf _ _
      · next heq => simp [heq, Except.toOption] at hread
  by_cases hb' : b = 123
  · obtain ⟨inner, entries, rfl⟩ := hobject hb'
    rw [Value.bytes, List.cons_append, List.append_assoc, List.append_assoc, List.singleton_append]
    exact toOption_readProtocolObject inner entries rest
  · have hnone : v.protocol? = none := by
      cases v with
      | string pieces => simp_all [Value.bytes]
      | object inner entries => simp_all [Value.bytes]
      | null | boolean value | number n | list inner elements => rfl
    rw [hbytes, hnone, List.cons_append]
    simp only [hb, hb', if_false]
    rfl

/-! ### Reading one member -/

namespace Draft

/-- Takes the value of a member into a draft, if it is of the right shape. -/
def put (draft : Draft) (v : Value) : Field → Option Draft
  | .protocol => v.protocol?.map fun p => { draft with protocol := some p }
  | .localEnd => v.text?.map fun text => { draft with localEnd := some text }
  | .remoteEnd => v.text?.map fun text => { draft with remoteEnd := some text }

/-- Takes a member into a draft.  A member of a path must be new, and any other changes nothing. -/
def add (draft : Draft) (name : String) (v : Value) : Option Draft :=
  match Field.ofName? name with
  | some field => if draft.has field then none else draft.put v field
  | none => some draft

/-- Takes all members into a draft. -/
def collect (draft : Draft) : List (Option String × Value) → Option Draft
  | [] => some draft
  | (none, _) :: _ => none
  | (some name, v) :: rest => (draft.add name v).bind (collect · rest)

end Draft

/-- The value of a member is read into a draft. -/
lemma toOption_read (draft : Draft) (field : Field) (v : Value) (gap : List Blank) (rest : Bytes) :
    (draft.read field (blanks gap ++ (v.bytes ++ rest))).toOption = (draft.put v field).map (·, rest) := by
  cases field with
  | protocol =>
    rw [Draft.read, toOption_map, toOption_readProtocol, Draft.put, Option.map_map, Option.map_map]
    rfl
  | localEnd | remoteEnd =>
    rw [Draft.read, toOption_map, toOption_readText, Draft.put, Option.map_map, Option.map_map]
    rfl

/-- What follows the name of a member is read into a draft; an unknown member is passed over. -/
lemma toOption_readMember (draft : Draft) (name : String) (v : Value) (beforeColon afterColon : List Blank)
    {rest : Bytes} (h : IsDelimited rest) :
    (readMember draft name (blanks beforeColon ++ 58 :: (blanks afterColon ++ (v.bytes ++ rest)))).toOption =
      (draft.add name v).map (·, rest) := by
  unfold readMember Draft.add
  simp only [colon_blanks]
  cases Field.ofName? name with
  | none =>
    simp only [skipValue_value v afterColon h]
    rfl
  | some field =>
    by_cases hhas : draft.has field = true
    · simp only [hhas, if_true]
      rfl
    · simp only [hhas, Bool.false_eq_true, if_false]
      exact toOption_read draft field v afterColon rest

/-! ### Reading all members -/

/-- Members are read one after the other. -/
lemma toOption_readMembers_eq (draft : Draft) (isFirst : Bool) (rest : Bytes) :
    (readMembers draft isFirst rest).toOption =
      (nextMember isFirst rest).toOption.bind fun next =>
        match next.1 with
        | none => draft.complete.toOption.map (·, next.2)
        | some name => (readMember draft name next.2).toOption.bind fun read =>
          (readMembers read.1 false read.2).toOption := by
  rw [readMembers]
  split
  · next heq =>
    rw [heq]
    rfl
  · next rest' heq =>
    rw [heq]
    cases draft.complete <;> simp [Except.toOption, stop]
  · next name rest' heq =>
    have hnext : (nextMember isFirst rest).toOption = some (some name, rest') := by rw [heq]; rfl
    rw [hnext, Option.bind_some]
    split
    · next heq' => simp [heq', Except.toOption]
    · next heq' => simp [heq', Except.toOption]

/-- The name of a member is read behind its comma. -/
lemma toOption_nextMember (isFirst : Bool) (gap before : List Blank) (name : List Piece) (rest : Bytes) :
    (nextMember isFirst (blanks gap ++ (comma isFirst ++ (blanks before ++
      (34 :: (body name ++ 34 :: rest)))))).toOption = (Json.text? name).map (some ·, rest) := by
  have hname : (nextMember.name (34 :: (body name ++ 34 :: rest))).toOption =
      (Json.text? name).map (some ·, rest) := by
    rw [nextMember.name, if_pos rfl, toOption_map, toOption_readString, Option.map_map]
    rfl
  unfold nextMember
  cases isFirst with
  | true =>
    rw [comma, if_pos rfl, List.nil_append, ← blanks_append,
      skipBlank_blanks_cons (gap ++ before) (by decide)]
    exact hname
  | false =>
    rw [comma, if_neg (by decide), List.singleton_append, skipBlank_blanks_cons gap (by decide)]
    simp only [skipBlank_blanks_cons before (show isBlank 34 = false by decide)]
    exact hname

/-- The members of an object are read into a draft, which then is complete or not. -/
theorem toOption_readMembers (entries : Entries) (draft : Draft) (isFirst : Bool) (gap : List Blank)
    (rest : Bytes) :
    (readMembers draft isFirst (blanks gap ++ (Entries.bytes isFirst entries ++ 125 :: rest))).toOption =
      ((draft.collect entries.members).bind fun d => d.complete.toOption).map (·, rest) := by
  rw [toOption_readMembers_eq]
  cases entries with
  | nil =>
    have hclose : nextMember isFirst (blanks gap ++ 125 :: rest) = .ok (none, rest) := by
      rw [nextMember, skipBlank_blanks_cons gap (by decide)]
      rfl
    rw [Entries.bytes, List.nil_append, hclose]
    rfl
  | cons before name beforeColon afterColon value after more =>
    simp only [Entries.bytes, List.append_assoc, List.cons_append, toOption_nextMember]
    cases htext : Json.text? name with
    | none => simp [Entries.members, htext, Draft.collect]
    | some text =>
      simp only [Option.map_some, Option.bind_some, Entries.members, htext, Draft.collect,
        toOption_readMember draft text value beforeColon afterColon (isDelimited_entries after more rest)]
      cases draft.add text value with
      | none => rfl
      | some draft' => exact toOption_readMembers more draft' false after rest

/-! ### What a draft amounts to -/

section Gives

variable {α : Type} {read : Value → Option α} {prior : Option α} {v : Value} {values : List Value} {a : α}

/-- What has been read before is all there is, or nothing has and there is one value, which reads as this. -/
def Gives (read : Value → Option α) (prior : Option α) (values : List Value) (a : α) : Prop :=
  prior = some a ∧ values = [] ∨ prior = none ∧ ∃ v, values = [v] ∧ read v = some a

/-- A value must be the first, and then be all there is. -/
lemma gives_cons : Gives read prior (v :: values) a ↔
    prior = none ∧ ∃ a', read v = some a' ∧ Gives read (some a') values a := by
  constructor
  · rintro (⟨-, hnil⟩ | ⟨hprior, v', hvalues, hread⟩)
    · cases hnil
    · cases hvalues
      exact ⟨hprior, a, hread, .inl ⟨rfl, rfl⟩⟩
  · rintro ⟨hprior, a', hread, ⟨hsame, rfl⟩ | ⟨hnone, -⟩⟩
    · obtain rfl : a' = a := Option.some.inj hsame
      exact .inr ⟨hprior, v, rfl, hread⟩
    · cases hnone

end Gives

/-- A draft that becomes the draft of this path when it has taken in some members. -/
@[mk_iff]
structure Draft.Completes (draft : Draft) (members : List (Option String × Value)) (t : FiveTuple) :
    Prop where
  isNamed : ∀ m ∈ members, m.1.isSome = true
  protocol : Gives Value.protocol? draft.protocol (valuesOf "proto" members) t.protocol
  localEnd : Gives Value.text? draft.localEnd (valuesOf "local" members) t.localEnd
  remoteEnd : Gives Value.text? draft.remoteEnd (valuesOf "remote" members) t.remoteEnd

variable {draft : Draft} {members : List (Option String × Value)} {t : FiveTuple}

/-- A member adds its value to those with its name. -/
lemma valuesOf_cons (wanted name : String) (v : Value) :
    valuesOf wanted ((some name, v) :: members) =
      if name = wanted then v :: valuesOf wanted members else valuesOf wanted members := by
  by_cases h : name = wanted <;> simp [valuesOf, h]

/-- A name is that of the field it stands for. -/
lemma Field.eq_name_of_ofName? {text : String} {field : Field} (h : Field.ofName? text = some field) :
    text = field.name := by
  unfold Field.ofName? at h
  split at h
  · cases h
    assumption
  · split at h
    · cases h
      assumption
    · split at h <;> cases h
      assumption

/-- A member of a path is taken in if it is new and its value is of the right shape. -/
lemma add_name_eq_some_iff {field : Field} {v : Value} {draft' : Draft} :
    draft.add field.name v = some draft' ↔ draft.has field = false ∧ draft.put v field = some draft' := by
  rw [Draft.add, Field.ofName?_name]
  by_cases h : draft.has field = true <;> simp [h]

/-- A draft takes in one member, and then becomes the draft of the path with the others. -/
lemma completes_cons (name : String) (v : Value) :
    draft.Completes ((some name, v) :: members) t ↔
      ∃ draft', draft.add name v = some draft' ∧ draft'.Completes members t := by
  simp only [Draft.completes_iff, valuesOf_cons, List.forall_mem_cons, Option.isSome_some, true_and]
  cases hname : Field.ofName? name with
  | none =>
    have hother : name ≠ "proto" ∧ name ≠ "local" ∧ name ≠ "remote" := by
      unfold Field.ofName? at hname
      split at hname
      · cases hname
      · split at hname
        · cases hname
        · split at hname
          · cases hname
          · exact ⟨‹_›, ‹_›, ‹_›⟩
    simp [Draft.add, hname, hother]
  | some field =>
    obtain rfl := Field.eq_name_of_ofName? hname
    simp only [add_name_eq_some_iff]
    cases field with
    | protocol =>
      simp only [Field.name, if_true, gives_cons, String.reduceEq, if_false]
      constructor
      · rintro ⟨hnamed, ⟨hprior, p, hread, hgives⟩, hlocal, hremote⟩
        exact ⟨{ draft with protocol := some p },
          ⟨by simp [Draft.has, hprior], by simp [Draft.put, hread]⟩, hnamed, hgives, hlocal, hremote⟩
      · rintro ⟨draft', ⟨hhas, hput⟩, hnamed, hgives, hlocal, hremote⟩
        obtain ⟨p, hread, rfl⟩ := Option.map_eq_some_iff.mp hput
        exact ⟨hnamed, ⟨by simpa [Draft.has] using hhas, p, hread, hgives⟩, hlocal, hremote⟩
    | localEnd =>
      simp only [Field.name, if_true, gives_cons, String.reduceEq, if_false]
      constructor
      · rintro ⟨hnamed, hprotocol, ⟨hprior, text, hread, hgives⟩, hremote⟩
        exact ⟨{ draft with localEnd := some text },
          ⟨by simp [Draft.has, hprior], by simp [Draft.put, hread]⟩, hnamed, hprotocol, hgives, hremote⟩
      · rintro ⟨draft', ⟨hhas, hput⟩, hnamed, hprotocol, hgives, hremote⟩
        obtain ⟨text, hread, rfl⟩ := Option.map_eq_some_iff.mp hput
        exact ⟨hnamed, hprotocol, ⟨by simpa [Draft.has] using hhas, text, hread, hgives⟩, hremote⟩
    | remoteEnd =>
      simp only [Field.name, if_true, gives_cons, String.reduceEq, if_false]
      constructor
      · rintro ⟨hnamed, hprotocol, hlocal, hprior, text, hread, hgives⟩
        exact ⟨{ draft with remoteEnd := some text },
          ⟨by simp [Draft.has, hprior], by simp [Draft.put, hread]⟩, hnamed, hprotocol, hlocal, hgives⟩
      · rintro ⟨draft', ⟨hhas, hput⟩, hnamed, hprotocol, hlocal, hgives⟩
        obtain ⟨text, hread, rfl⟩ := Option.map_eq_some_iff.mp hput
        exact ⟨hnamed, hprotocol, hlocal, by simpa [Draft.has] using hhas, text, hread, hgives⟩

/-- A draft takes in all members and is complete then, exactly if it becomes the draft of a path. -/
theorem collect_complete_iff :
    ((draft.collect members).bind fun d => d.complete.toOption) = some t ↔ draft.Completes members t := by
  induction members generalizing draft with
  | nil =>
    have hcompletes : draft.Completes [] t ↔
        draft.protocol = some t.protocol ∧ draft.localEnd = some t.localEnd ∧
          draft.remoteEnd = some t.remoteEnd := by
      constructor
      · rintro ⟨-, hprotocol, hlocal, hremote⟩
        exact ⟨by simpa [Gives, valuesOf] using hprotocol, by simpa [Gives, valuesOf] using hlocal,
          by simpa [Gives, valuesOf] using hremote⟩
      · rintro ⟨hprotocol, hlocal, hremote⟩
        exact ⟨by simp, .inl ⟨hprotocol, rfl⟩, .inl ⟨hlocal, rfl⟩, .inl ⟨hremote, rfl⟩⟩
    rw [hcompletes]
    obtain ⟨protocol?, local?, remote?⟩ := draft
    obtain ⟨p, l, r⟩ := t
    cases protocol? <;> cases local? <;> cases remote? <;>
      simp [Draft.collect, Draft.complete, Except.toOption]
  | cons m members ih =>
    obtain ⟨name?, v⟩ := m
    cases name? with
    | none =>
      constructor
      · intro h
        cases h
      · intro h
        exact absurd (h.isNamed _ List.mem_cons_self) (by simp)
    | some name =>
      rw [completes_cons, Draft.collect, Option.bind_assoc, Option.bind_eq_some_iff]
      simp only [ih]

/-! ### Records that are objects -/

/-- An object describes a path if the empty draft becomes the draft of the path with its members. -/
lemma completes_iff_describes {o : ObjectText} :
    ({} : Draft).Completes o.entries.members t ↔ o.Describes t := by
  constructor
  · rintro ⟨hnamed, hprotocol, hlocal, hremote⟩
    have hgives : ∀ {α : Type} {read : Value → Option α} {values : List Value} {a : α},
        Gives read none values a → ∃ v, values = [v] ∧ read v = some a := fun h => by simpa [Gives] using h
    exact ⟨hnamed, hgives hprotocol, hgives hlocal, hgives hremote⟩
  · rintro ⟨hnamed, hprotocol, hlocal, hremote⟩
    exact ⟨hnamed, .inr ⟨rfl, hprotocol⟩, .inr ⟨rfl, hlocal⟩, .inr ⟨rfl, hremote⟩⟩

/-- An object is read as the path that it describes, and as no other. -/
theorem readResult_eq_ok_iff (o : ObjectText) : Record.readResult o.bytes = .ok t ↔ o.Describes t := by
  have hmembers := toOption_readMembers o.entries {} true o.inner (blanks o.after)
  have htuple : readTuple o.bytes =
      readMembers {} true (blanks o.inner ++ (Entries.bytes true o.entries ++ 125 :: blanks o.after)) := by
    rw [readTuple, ObjectText.bytes, skipBlank_value, Value.bytes]
    simp
  have hfinish : finish (blanks o.after) = .ok () := by
    have hblank := skipBlank_blanks o.after []
    rw [List.append_nil] at hblank
    rw [finish, hblank]
    rfl
  rw [← completes_iff_describes, ← collect_complete_iff]
  unfold Record.readResult decode
  rw [htuple]
  cases hread : readMembers {} true (blanks o.inner ++
      (Entries.bytes true o.entries ++ 125 :: blanks o.after)) with
  | error misread =>
    rw [hread] at hmembers
    have hnone := Option.map_eq_none_iff.mp hmembers.symm
    simp [hnone, bind, Except.bind, Except.mapError]
  | ok read =>
    rw [hread] at hmembers
    obtain ⟨t', hsome, rfl⟩ := Option.map_eq_some_iff.mp hmembers.symm
    simp [hsome, hfinish, bind, Except.bind, Except.mapError]

/-- Reading a record depends on nothing but the three members of a path.  An object between blanks that
has each of them once, with values of the right shape, is read as the path that they make up, however its
strings are spelled.  An object in which one of them is missing, occurs twice or has another value is refused;
so is one with a name that is no text.  And an object with the same values for the three, in any order and
among any others, is read as the same path. -/
theorem readResult_object (o : ObjectText) :
    (∀ t, o.Describes t → Record.readResult o.bytes = .ok t) ∧
    ((∀ t, ¬ o.Describes t) → ∃ fault, Record.readResult o.bytes = .error (.resultMalformed fault)) ∧
    ∀ o' : ObjectText, o'.IsNamed →
      (∀ name ∈ ["proto", "local", "remote"], (o'.values name).Perm (o.values name)) →
        ∀ t, Record.readResult o.bytes = .ok t → Record.readResult o'.bytes = .ok t := by
  refine ⟨fun t h => (readResult_eq_ok_iff o).mpr h, fun h => ?_, fun o' hnamed hvalues t h => ?_⟩
  · have hrefused : ∀ t, Record.readResult o.bytes ≠ .ok t := fun t ht => h t ((readResult_eq_ok_iff o).mp ht)
    unfold Record.readResult at hrefused ⊢
    cases hdecode : decode o.bytes with
    | error fault => exact ⟨fault, rfl⟩
    | ok t =>
      rw [hdecode] at hrefused
      exact absurd rfl (hrefused t)
  · obtain ⟨-, ⟨p, hprotocol, hp⟩, ⟨l, hlocal, hl⟩, ⟨r, hremote, hr⟩⟩ := (readResult_eq_ok_iff o).mp h
    have hsame : ∀ name ∈ ["proto", "local", "remote"], ∀ v, o.values name = [v] → o'.values name = [v] :=
      fun name hname v hv => List.perm_singleton.mp (hv ▸ hvalues name hname)
    exact (readResult_eq_ok_iff o').mpr ⟨hnamed, ⟨p, hsame _ (by simp) p hprotocol, hp⟩,
      ⟨l, hsame _ (by simp) l hlocal, hl⟩, ⟨r, hsame _ (by simp) r hremote, hr⟩⟩

/-- A path with an escaped name, a protocol that is an object, an escaped slash and a surrogate pair, behind
a member that holds an object with the name of a field.  With the members in another order and without the
last one it is the same path.  With the protocol twice, under two spellings of its name, it is none. -/
theorem readResult_of_three_objects :
    let udp : Value := .object [] (.cons [] (spelling "udp") [] [] .null [] .nil)
    let slash : Value := .string (spelling "a" ++ .short .slash :: spelling "b")
    let smile : Value := .string [.unit ⟨⟨13, false⟩, ⟨8, false⟩, ⟨3, false⟩, ⟨13, true⟩⟩,
      .unit ⟨⟨13, true⟩, ⟨14, false⟩, ⟨0, false⟩, ⟨0, false⟩⟩]
    let nested : Value := .list [.space] (.cons [] (.object [] (.cons [] (spelling "proto") [] []
      (.number ⟨true, .zero, none, some ⟨true, .plus, ⟨3, []⟩⟩⟩) [] .nil)) [.tab] .nil)
    let proto : List Piece := .unit ⟨⟨0, false⟩, ⟨0, false⟩, ⟨7, false⟩, ⟨0, false⟩⟩ :: spelling "roto"
    let t : FiveTuple := ⟨.udp, "a/b", "😀"⟩
    let o : ObjectText := ⟨[.lineFeed], [.space], .cons [] (spelling "other") [] [.space] nested []
      (.cons [.space] proto [.space] [] udp [] (.cons [] (spelling "remote") [] [] smile []
        (.cons [] (spelling "local") [] [] slash [] .nil))), [.tab]⟩
    let o' : ObjectText := ⟨[], [], .cons [] (spelling "local") [] [] slash []
      (.cons [] (spelling "remote") [] [] smile [] (.cons [] (spelling "proto") [] [] udp [] .nil)), []⟩
    let twice : ObjectText := ⟨[], [], .cons [] (spelling "proto") [] [] udp [] o.entries, []⟩
    o.bytes = Bytes.ofText ("\n\x7b \"other\": [ \x7b\"proto\":-0E+3\x7d\t], " ++
      "\"\\u0070roto\" :\x7b\"udp\":null\x7d,\"remote\":\"\\ud83D\\uDe00\",\"local\":\"a\\/b\"\x7d\t") ∧
    Record.readResult o.bytes = .ok t ∧ Record.readResult o'.bytes = .ok t ∧
    ∃ fault, Record.readResult twice.bytes = .error (.resultMalformed fault) := by
  intro udp slash smile nested proto t o o' twice
  obtain ⟨hread, -, hother⟩ := readResult_object o
  have hdescribes : o.Describes t :=
    ⟨by decide +kernel, ⟨udp, rfl, rfl⟩, ⟨slash, rfl, rfl⟩, ⟨smile, rfl, rfl⟩⟩
  have hnamed : o'.IsNamed := by decide +kernel
  refine ⟨by decide +kernel, hread t hdescribes, hother o' hnamed ?_ t (hread t hdescribes), ?_⟩
  · intro name hname
    simp only [List.mem_cons, List.not_mem_nil, or_false] at hname
    rcases hname with rfl | rfl | rfl <;> exact List.Perm.refl _
  · refine (readResult_object twice).2.1 fun t' h => ?_
    obtain ⟨v, hvalues, -⟩ := h.protocol
    have hlength : (twice.values "proto").length = 2 := by decide +kernel
    rw [hvalues] at hlength
    cases hlength

end FiveTuple
end Traversal
