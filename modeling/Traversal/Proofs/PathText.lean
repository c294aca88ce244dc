import Mathlib
import Traversal.Proofs.Quoted
import Traversal.Record.Content

/-!
# The JSON text of a path is read back

`FiveTuple.decode` undoes `FiveTuple.encode` (`decode_encode`), for endpoints that may be any text.  Each
reader that takes part has a lemma that says what it makes of what was written; the members of the object
are read one after the other, each into a draft that has none of that name yet (`readMembers_of_member`).

The text has no control byte (`le_of_mem_encode`), so that it is one line.  All of it together says that a
path is known from its text (`readResult_encode`).
-/

namespace Traversal

open Bytes Json

/-! ### Readers that meet what they look for -/

namespace Json

/-- A byte that is no blank is not skipped. -/
lemma skipBlank_cons {b : UInt8} (h : isBlank b = false) (rest : Bytes) :
    skipBlank (b :: rest) = b :: rest := by
  rw [skipBlank, List.dropWhile_cons_of_neg (by simp [h])]

/-- A colon is read where it is due. -/
lemma colon_cons (rest : Bytes) : colon (58 :: rest) = .ok rest := by
  rw [colon, skipBlank_cons (by decide)]
  rfl

/-- A string is read where a text is called for. -/
lemma readText_quoted (text : String) (rest : Bytes) :
    readText (ofChars (quoted text.toList) ++ rest) = .ok (text, rest) := by
  rw [ofChars_quoted, readText, skipBlank_cons (by decide)]
  exact readString_quoted text rest

/-- The name of a member is read where it is due. -/
lemma name_quoted (name : String) (rest : Bytes) :
    nextMember.name (ofChars (quoted name.toList) ++ rest) = .ok (some name, rest) := by
  rw [ofChars_quoted]
  simp only [nextMember.name, if_true, readString_quoted, Except.map]

/-- The first member follows the opening brace. -/
lemma nextMember_first (name : String) (rest : Bytes) :
    nextMember true (ofChars (quoted name.toList) ++ rest) = .ok (some name, rest) := by
  rw [← name_quoted name rest, ofChars_quoted, nextMember, skipBlank_cons (by decide)]
  rfl

/-- A further member follows a comma. -/
lemma nextMember_comma (name : String) (rest : Bytes) :
    nextMember false (44 :: (ofChars (quoted name.toList) ++ rest)) = .ok (some name, rest) := by
  rw [← name_quoted name rest, ofChars_quoted, nextMember, skipBlank_cons (by decide)]
  simp only [skipBlank_cons (show isBlank 34 = false by decide)]
  rfl

/-- An object ends with its closing brace. -/
lemma nextMember_close (isFirst : Bool) (rest : Bytes) :
    nextMember isFirst (125 :: rest) = .ok (none, rest) := by
  rw [nextMember, skipBlank_cons (by decide)]
  rfl

end Json

namespace FiveTuple

/-- A protocol is read from its name. -/
lemma readProtocol_quoted (p : Protocol) (rest : Bytes) :
    readProtocol (ofChars (quoted p.name.toList) ++ rest) = .ok (p, rest) := by
  rw [ofChars_quoted, readProtocol, skipBlank_cons (by decide)]
  simp only [if_true, readString_quoted, protocolOf, Protocol.ofName?_name]

/-! ### The members of an object -/

/-- What a path has under the name of a member. -/
def Field.text (t : FiveTuple) : Field → String
  | protocol => t.protocol.name
  | localEnd => t.localEnd
  | remoteEnd => t.remoteEnd

/-- A draft that takes a member from a path. -/
def Draft.fill (draft : Draft) (t : FiveTuple) : Field → Draft
  | .protocol => { draft with protocol := some t.protocol }
  | .localEnd => { draft with localEnd := some t.localEnd }
  | .remoteEnd => { draft with remoteEnd := some t.remoteEnd }

/-- A member is known by its name. -/
lemma Field.ofName?_name (field : Field) : Field.ofName? field.name = some field := by
  cases field <;> rfl

variable (t : FiveTuple)

/-- The value of a member is read back. -/
lemma Draft.read_quoted (draft : Draft) (field : Field) (rest : Bytes) :
    draft.read field (ofChars (quoted (field.text t).toList) ++ rest) = .ok (draft.fill t field, rest) := by
  cases field with
  | protocol => simp only [Draft.read, Field.text, readProtocol_quoted, Except.map, Draft.fill]
  | localEnd | remoteEnd => simp only [Draft.read, Field.text, readText_quoted, Except.map, Draft.fill]

/-- What follows the name of a member is read back, if the draft does not have the member yet. -/
lemma readMember_quoted {draft : Draft} (field : Field) (h : draft.has field = false) (rest : Bytes) :
    readMember draft field.name (58 :: (ofChars (quoted (field.text t).toList) ++ rest)) =
      .ok (draft.fill t field, rest) := by
  simp only [readMember, Field.ofName?_name, h, Bool.false_eq_true, if_false, colon_cons,
    Draft.read_quoted]

/-- A reader of members goes on behind a member that it has read. -/
lemma readMembers_of_member {draft draft' : Draft} {isFirst : Bool} {name : String}
    {rest after after' : Bytes} (hname : nextMember isFirst rest = .ok (some name, after))
    (hmember : readMember draft name after = .ok (draft', after')) :
    readMembers draft isFirst rest = readMembers draft' false after' := by
  rw [readMembers]
  split
  · next heq =>
    rw [hname] at heq
    cases heq
  · next heq =>
    rw [hname] at heq
    cases heq
  · next heq =>
    rw [hname] at heq
    cases heq
    split
    · next heq' =>
      rw [hmember] at heq'
      cases heq'
    · next heq' =>
      rw [hmember] at heq'
      cases heq'
      rfl

/-- The end of an object with all members is the end of its path. -/
lemma readMembers_of_close {draft : Draft} {isFirst : Bool} {rest after : Bytes}
    (hclose : nextMember isFirst rest = .ok (none, after)) (hcomplete : draft.complete = .ok t) :
    readMembers draft isFirst rest = .ok (t, after) := by
  rw [readMembers]
  split
  · next heq =>
    rw [hclose] at heq
    cases heq
  · next heq =>
    rw [hclose] at heq
    cases heq
    rw [hcomplete]
  · next heq =>
    rw [hclose] at heq
    cases heq

/-- The bytes of a member, and what follows them. -/
lemma ofChars_member (name value : String) (rest : Bytes) :
    ofChars (member name value) ++ rest =
      ofChars (quoted name.toList) ++ (58 :: (ofChars (quoted value.toList) ++ rest)) := by
  rw [member, ofChars_append, ofChars_cons, List.append_assoc, List.append_assoc]
  rfl

/-- A path is read back from its JSON text. -/
theorem decode_encode : decode t.encode = .ok t := by
  have htext : t.encode = 123 :: (ofChars (member "proto" t.protocol.name) ++
      (44 :: (ofChars (member "local" t.localEnd) ++
        (44 :: (ofChars (member "remote" t.remoteEnd) ++ [125]))))) := by
    simp only [encode, jsonChars, List.cons_append, ofChars_append, ofChars_cons, List.append_assoc]
    rfl
  have hmembers : readMembers {} true (ofChars (member "proto" t.protocol.name) ++
      (44 :: (ofChars (member "local" t.localEnd) ++
        (44 :: (ofChars (member "remote" t.remoteEnd) ++ [125]))))) = .ok (t, []) := by
    rw [ofChars_member, ofChars_member, ofChars_member]
    refine (readMembers_of_member (nextMember_first _ _)
      (readMember_quoted t .protocol rfl _)).trans ?_
    refine (readMembers_of_member (nextMember_comma _ _)
      (readMember_quoted t .localEnd rfl _)).trans ?_
    refine (readMembers_of_member (nextMember_comma _ _)
      (readMember_quoted t .remoteEnd rfl _)).trans ?_
    exact readMembers_of_close t (nextMember_close _ _) rfl
  have htuple : readTuple t.encode = .ok (t, []) := by
    rw [htext, readTuple, skipBlank_cons (by decide)]
    exact hmembers
  simp only [decode, htuple, bind, Except.bind]
  rfl

/-! ### One line -/

/-- The JSON text of a path has no control characters. -/
lemma le_of_mem_jsonChars {c : Char} (hc : c ∈ t.jsonChars) : 32 ≤ c.toNat := by
  have hmember : ∀ name value : String, c ∈ member name value → 32 ≤ c.toNat := by
    intro name value hmem
    simp only [member, List.mem_append, List.mem_cons] at hmem
    rcases hmem with hname | rfl | hvalue
    · exact le_of_mem_quoted hname
    · decide
    · exact le_of_mem_quoted hvalue
  simp only [jsonChars, List.cons_append, List.append_assoc, List.mem_cons, List.mem_append,
    List.not_mem_nil, or_false] at hc
  rcases hc with rfl | hproto | rfl | hlocal | rfl | hremote | rfl
  · decide
  · exact hmember _ _ hproto
  · decide
  · exact hmember _ _ hlocal
  · decide
  · exact hmember _ _ hremote
  · decide

/-- The JSON text of a path has no control bytes. -/
theorem le_of_mem_encode {b : UInt8} (hb : b ∈ t.encode) : 0x20 ≤ b :=
  UInt8.le_iff_toNat_le.mpr (Utf8.le_of_mem_ofChars (fun _ hc => le_of_mem_jsonChars t hc) hb)

/-- The JSON text of a path is one line. -/
theorem newline_not_mem_encode : newline ∉ t.encode := by
  intro hmem
  have hle := le_of_mem_encode t hmem
  exact absurd hle (by decide)

/-! ### A path is known from its text -/

/-- Two paths with one text are one path. -/
theorem encode_injective : Function.Injective encode := by
  intro t u heq
  have hread : (Except.ok t : Except Fault FiveTuple) = .ok u :=
    calc .ok t = decode t.encode := (decode_encode t).symm
      _ = decode u.encode := by rw [heq]
      _ = .ok u := decode_encode u
  exact Except.ok.inj hread

/-- The JSON text of a path has no control byte, whatever characters its endpoints are made of.  Read as
a record it is the path again, and it is the text of no other path. -/
theorem readResult_encode :
    (∀ b ∈ t.encode, 0x20 ≤ b) ∧ Record.readResult t.encode = .ok t ∧
      ∀ u : FiveTuple, u ≠ t → u.encode ≠ t.encode := by
  refine ⟨fun b hb => le_of_mem_encode t hb, ?_, fun u hne heq => hne (encode_injective heq)⟩
  rw [Record.readResult, decode_encode]
  rfl

/-- Endpoints with a quote, a backslash, control characters of each spelling, a delete and characters of
two and four bytes; the other path spells out in letters what the first one means by an escape. -/
theorem readResult_encode_of_escapes :
    let t : FiveTuple := ⟨.tcp, "\"\\\x00\x08\n\x1f\x7f", "é𐍈"⟩
    let u : FiveTuple := ⟨.tcp, "\"\\\\u0000\x08\n\x1f\x7f", "é𐍈"⟩
    t.encode = ofText ("\x7b\"proto\":\"tcp\",\"local\":\"\\\"\\\\\\u0000\\b\\n\\u001f\x7f\"," ++
        "\"remote\":\"é𐍈\"\x7d") ∧
      (0x7f ∈ t.encode ∧ 0x20 ≤ (0x7f : UInt8)) ∧ Record.readResult t.encode = .ok t ∧
      u ≠ t ∧ u.encode ≠ t.encode := by
  intro t u
  obtain ⟨hcontrol, hread, hother⟩ := readResult_encode t
  have hmem : 0x7f ∈ t.encode := by decide +kernel
  have hne : u ≠ t := by decide +kernel
  exact ⟨by decide +kernel, ⟨hmem, hcontrol _ hmem⟩, hread, hne, hother u hne⟩

end FiveTuple
end Traversal
