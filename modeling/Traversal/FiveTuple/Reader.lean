import Traversal.FiveTuple
import Traversal.Json.Typed

/-!
# Reading negotiated paths

`FiveTuple.decode` reads the JSON text of a path.  An object may hold its three members in any order
among others, which are skipped; a list holds exactly the three values.  The protocol is a string, or
an object whose only member has the protocol's name and the value null.
-/

namespace Traversal.FiveTuple

open Json

/-- The members that make up a path. -/
inductive Field
  | protocol
  | localEnd
  | remoteEnd
deriving DecidableEq, Repr

namespace Field

/-- The name of a member in the JSON text. -/
def name : Field → String
  | protocol => "proto"
  | localEnd => "local"
  | remoteEnd => "remote"

/-- The member of a name. -/
def ofName? (text : String) : Option Field :=
  if text = protocol.name then some protocol
  else if text = localEnd.name then some localEnd
  else if text = remoteEnd.name then some remoteEnd
  else none

end Field

/-- The protocol of a name that was read. -/
def protocolOf (name : String) (rest : Bytes) : Except Misread (Protocol × Bytes) :=
  match Protocol.ofName? name with
  | some p => .ok (p, rest)
  | none => stop (.unknownVariant name Protocol.names) rest

/-- Reads the closing brace of a protocol that is written as an object. -/
def closeProtocol (rest : Bytes) : Except Misread Bytes :=
  match skipBlank rest with
  | [] => stop .objectUnfinished []
  | b :: tail => if b = 125 then .ok tail else stop .valueExpected (b :: tail)

/-- Reads the name of a protocol that is written as an object. -/
def readProtocolName (rest : Bytes) : Except Misread (String × Bytes) :=
  match skipBlank rest with
  | [] => stop .objectUnfinished []
  | b :: tail =>
    if b = 34 then readString tail
    else if b = 125 then stop .valueExpected tail
    else stop .keyNotString tail

/-- Reads a protocol that is written as an object, after the opening brace. -/
def readProtocolObject (rest : Bytes) : Except Misread (Protocol × Bytes) := do
  let (name, rest) ← readProtocolName rest
  let (p, rest) ← protocolOf name rest
  let rest ← colon rest
  let rest ← readNull rest
  let rest ← closeProtocol rest
  .ok (p, rest)

/-- Reads a protocol. -/
def readProtocol (rest : Bytes) : Except Misread (Protocol × Bytes) :=
  match skipBlank rest with
  | [] => stop .valueUnfinished []
  | b :: tail =>
    if b = 34 then
      match readString tail with
      | .ok (name, rest) => protocolOf name rest
      | .error misread => .error misread
    else if b = 123 then readProtocolObject tail
    else stop .valueExpected tail

/-- The members read so far. -/
structure Draft where
  protocol : Option Protocol := none
  localEnd : Option String := none
  remoteEnd : Option String := none
deriving DecidableEq, Repr

namespace Draft

/-- Whether a member has been read. -/
def has (draft : Draft) : Field → Bool
  | .protocol => draft.protocol.isSome
  | .localEnd => draft.localEnd.isSome
  | .remoteEnd => draft.remoteEnd.isSome

/-- Reads the value of a member into a draft. -/
def read (draft : Draft) (field : Field) (rest : Bytes) : Except Misread (Draft × Bytes) :=
  match field with
  | .protocol => (readProtocol rest).map fun r => ({ draft with protocol := some r.1 }, r.2)
  | .localEnd => (readText rest).map fun r => ({ draft with localEnd := some r.1 }, r.2)
  | .remoteEnd => (readText rest).map fun r => ({ draft with remoteEnd := some r.1 }, r.2)

/-- The path of a full draft, or the first member that it lacks. -/
def complete (draft : Draft) : Except Field FiveTuple :=
  match draft.protocol, draft.localEnd, draft.remoteEnd with
  | some p, some l, some r => .ok ⟨p, l, r⟩
  | none, _, _ => .error .protocol
  | _, none, _ => .error .localEnd
  | _, _, none => .error .remoteEnd

end Draft

/-- The place that a repeated member is blamed on: behind the object's closing brace if that is what
comes next. -/
def repeatedAt (rest : Bytes) : Bytes :=
  match skipBlank rest with
  | 125 :: tail => tail
  | rest => rest

/-- Reads what follows the name of a member. -/
def readMember (draft : Draft) (name : String) (rest : Bytes) : Except Misread (Draft × Bytes) :=
  match Field.ofName? name with
  | some field =>
    if draft.has field then stop (.duplicateField field.name) (repeatedAt rest)
    else
      match colon rest with
      | .ok rest => draft.read field rest
      | .error misread => .error misread
  | none =>
    match colon rest with
    | .ok rest => (skipValue .lax rest).map (draft, ·)
    | .error misread => .error misread

theorem length_le_of_protocolOf {name : String} {p : Protocol} {rest rest' : Bytes}
    (h : protocolOf name rest = .ok (p, rest')) : rest'.length ≤ rest.length := by
  unfold protocolOf at h
  split at h
  · simp only [Except.ok.injEq, Prod.mk.injEq] at h; simp [h.2]
  · simp [stop] at h

theorem length_le_of_readNull {rest rest' : Bytes} (h : readNull rest = .ok rest') :
    rest'.length ≤ rest.length := by
  have hblank := length_skipBlank_le rest
  unfold readNull at h
  split at h
  · simp [stop] at h
  · next heq =>
    rw [heq, List.length_cons] at hblank
    split at h
    · have := length_le_of_word h; omega
    · simp at h

theorem length_le_of_closeProtocol {rest rest' : Bytes} (h : closeProtocol rest = .ok rest') :
    rest'.length ≤ rest.length := by
  have hblank := length_skipBlank_le rest
  unfold closeProtocol at h
  split at h
  · simp [stop] at h
  · next heq =>
    rw [heq, List.length_cons] at hblank
    split at h
    · simp only [Except.ok.injEq] at h; rw [← h]; omega
    · simp [stop] at h

theorem length_lt_of_readProtocolName {name : String} {rest rest' : Bytes}
    (h : readProtocolName rest = .ok (name, rest')) : rest'.length < rest.length := by
  have hblank := length_skipBlank_le rest
  unfold readProtocolName at h
  split at h
  · simp [stop] at h
  · next heq =>
    rw [heq, List.length_cons] at hblank
    split at h
    · have := length_lt_of_readString h; omega
    · split at h <;> simp [stop] at h

theorem length_le_of_readProtocolObject {p : Protocol} {rest rest' : Bytes}
    (h : readProtocolObject rest = .ok (p, rest')) : rest'.length ≤ rest.length := by
  unfold readProtocolObject at h
  cases h1 : readProtocolName rest with
  | error e => simp [h1, bind, Except.bind] at h
  | ok r1 =>
    obtain ⟨name, r1⟩ := r1
    have l1 := length_lt_of_readProtocolName h1
    simp only [h1, bind, Except.bind] at h
    cases h2 : protocolOf name r1 with
    | error e => simp [h2] at h
    | ok r2 =>
      obtain ⟨p2, r2⟩ := r2
      have l2 := length_le_of_protocolOf h2
      simp only [h2] at h
      cases h3 : colon r2 with
      | error e => simp [h3] at h
      | ok r3 =>
        have l3 := length_lt_of_colon h3
        simp only [h3] at h
        cases h4 : readNull r3 with
        | error e => simp [h4] at h
        | ok r4 =>
          have l4 := length_le_of_readNull h4
          simp only [h4] at h
          cases h5 : closeProtocol r4 with
          | error e => simp [h5] at h
          | ok r5 =>
            have l5 := length_le_of_closeProtocol h5
            simp only [h5, Except.ok.injEq, Prod.mk.injEq] at h
            rw [← h.2]; omega

theorem length_le_of_readProtocol {p : Protocol} {rest rest' : Bytes}
    (h : readProtocol rest = .ok (p, rest')) : rest'.length ≤ rest.length := by
  have hblank := length_skipBlank_le rest
  unfold readProtocol at h
  split at h
  · simp [stop] at h
  · next heq =>
    rw [heq, List.length_cons] at hblank
    split at h
    · split at h
      · next hr =>
        have h1 := length_lt_of_readString hr
        have h2 := length_le_of_protocolOf h
        omega
      · simp at h
    · split at h
      · have := length_le_of_readProtocolObject h; omega
      · simp [stop] at h

theorem length_le_of_read {draft draft' : Draft} {field : Field} {rest rest' : Bytes}
    (h : draft.read field rest = .ok (draft', rest')) : rest'.length ≤ rest.length := by
  cases field with
  | protocol =>
    obtain ⟨⟨p, r⟩, hr, he⟩ := eq_ok_of_map h
    simp only [Prod.mk.injEq] at he
    rw [← he.2]; exact length_le_of_readProtocol hr
  | localEnd =>
    obtain ⟨⟨t, r⟩, hr, he⟩ := eq_ok_of_map h
    simp only [Prod.mk.injEq] at he
    rw [← he.2]; exact Nat.le_of_lt (length_lt_of_readText hr)
  | remoteEnd =>
    obtain ⟨⟨t, r⟩, hr, he⟩ := eq_ok_of_map h
    simp only [Prod.mk.injEq] at he
    rw [← he.2]; exact Nat.le_of_lt (length_lt_of_readText hr)

theorem length_le_of_readMember {draft draft' : Draft} {name : String} {rest rest' : Bytes}
    (h : readMember draft name rest = .ok (draft', rest')) : rest'.length ≤ rest.length := by
  unfold readMember at h
  split at h
  · split at h
    · simp [stop] at h
    · split at h
      · next hc =>
        have h1 := length_lt_of_colon hc
        have h2 := length_le_of_read h
        omega
      · simp at h
  · split at h
    · next hc =>
      have h1 := length_lt_of_colon hc
      obtain ⟨r, hr, he⟩ := eq_ok_of_map h
      have h2 := length_lt_of_skipValue hr
      simp only [Prod.mk.injEq] at he
      rw [← he.2]; omega
    · simp at h

/-- Reads the members of an object into a draft, up to and including the closing brace. -/
def readMembers (draft : Draft) (isFirst : Bool) (rest : Bytes) : Except Misread (FiveTuple × Bytes) :=
  match h : nextMember isFirst rest with
  | .error misread => .error misread
  | .ok (none, rest') =>
    match draft.complete with
    | .ok t => .ok (t, rest')
    | .error field => stop (.missingField field.name) rest'
  | .ok (some name, rest') =>
    match h' : readMember draft name rest' with
    | .error misread => .error misread
    | .ok (draft', rest'') =>
      have : rest''.length < rest.length :=
        Nat.lt_of_le_of_lt (length_le_of_readMember h') (length_lt_of_nextMember h)
      readMembers draft' false rest''
termination_by rest.length

/-- Reads up to an element that must be there. -/
def dueElement (index : Nat) (rest : Bytes) : Except Misread Bytes :=
  match nextElement (index = 0) rest with
  | .ok (true, rest) => .ok rest
  | .ok (false, rest) =>
    stopPast (.wrongLength index "struct FiveTuple with 3 elements") rest
  | .error misread => .error misread

/-- Reads the elements of a list, up to and including the closing bracket. -/
def readElements (rest : Bytes) : Except Misread (FiveTuple × Bytes) := do
  let (p, rest) ← readProtocol (← dueElement 0 rest)
  let (l, rest) ← readText (← dueElement 1 rest)
  let (r, rest) ← readText (← dueElement 2 rest)
  let rest ← closeList rest
  .ok (⟨p, l, r⟩, rest)

/-- Reads a path. -/
def readTuple (rest : Bytes) : Except Misread (FiveTuple × Bytes) :=
  match skipBlank rest with
  | [] => stop .valueUnfinished []
  | b :: tail =>
    if b = 123 then readMembers {} true tail
    else if b = 91 then readElements tail
    else .error (refuse "struct FiveTuple" (b :: tail))

/-- Reads a whole text as a path. -/
def decode (text : Bytes) : Except Fault FiveTuple :=
  let read : Except Misread FiveTuple := do
    let (t, rest) ← readTuple text
    finish rest
    .ok t
  read.mapError (·.place text)

end Traversal.FiveTuple
