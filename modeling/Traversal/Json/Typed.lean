import Traversal.Json.Extent
import Traversal.Text.Literal

/-!
# Values of a required type

Readers for a value whose type is known beforehand.  A value of another type is refused under the
name of what was found; it is read first as far as its name needs, so that a fault inside it comes
before the fault of its type.
-/

namespace Traversal.Json

/-- What a text is called in a fault. -/
def describeText (text : String) : String :=
  "string " ++ Text.literal text

/-- Refuses the next value for its type. -/
def refuse (expected : String) (rest : Bytes) : Misread :=
  let wrong (found : String) (rest : Bytes) : Misread := ⟨.wrongType found expected, rest⟩
  let either (read : Except Misread Bytes) (found : String) : Misread :=
    match read with
    | .ok rest => wrong found rest
    | .error misread => misread
  match rest with
  | [] => ⟨.valueExpected, []⟩
  | b :: tail =>
    if b = 91 then wrong "sequence" rest
    else if b = 123 then wrong "map" rest
    else if b = 110 then either (word [117, 108, 108] tail) "null"
    else if b = 116 then either (word [114, 117, 101] tail) "boolean `true`"
    else if b = 102 then either (word [97, 108, 115, 101] tail) "boolean `false`"
    else if b = 34 then
      match readString tail with
      | .ok (text, rest) => wrong (describeText text) rest
      | .error misread => misread
    else if b = 45 || isDigit b then
      match readNumber (b = 45) (if b = 45 then tail else rest) with
      | .ok (number, rest) => wrong number.description rest
      | .error misread => misread
    else ⟨.valueExpected, tail⟩

/-- Reads a value that must be a string. -/
def readText (rest : Bytes) : Except Misread (String × Bytes) :=
  match skipBlank rest with
  | [] => stop .valueUnfinished []
  | b :: tail => if b = 34 then readString tail else .error (refuse "a string" (b :: tail))

/-- Reads a value that must be null. -/
def readNull (rest : Bytes) : Except Misread Bytes :=
  match skipBlank rest with
  | [] => stop .valueUnfinished []
  | b :: tail =>
    if b = 110 then word [117, 108, 108] tail else .error (refuse "unit" (b :: tail))

/-- Reads up to the next member of an object.  It gives the name of the member, behind which the
colon is due, or nothing if the object has been closed. -/
def nextMember (isFirst : Bool) (rest : Bytes) : Except Misread (Option String × Bytes) :=
  match skipBlank rest with
  | [] => stop .objectUnfinished []
  | b :: tail =>
    if b = 125 then .ok (none, tail)
    else if isFirst then name (b :: tail)
    else if b = 44 then
      match skipBlank tail with
      | [] => stop .valueUnfinished []
      | b :: tail => if b = 125 then stop .trailingComma tail else name (b :: tail)
    else stop .objectSeparatorExpected tail
where
  /-- Reads the name of a member. -/
  name : Bytes → Except Misread (Option String × Bytes)
    | [] => stop .objectUnfinished []
    | b :: tail =>
      if b = 34 then (readString tail).map fun read => (some read.1, read.2)
      else stop .keyNotString tail

/-- Reads up to the next element of a list; the answer is false if the list has ended, with its
bracket still unread. -/
def nextElement (isFirst : Bool) (rest : Bytes) : Except Misread (Bool × Bytes) :=
  match skipBlank rest with
  | [] => stop .listUnfinished []
  | b :: tail =>
    if b = 93 then .ok (false, b :: tail)
    else if isFirst then .ok (true, b :: tail)
    else if b = 44 then
      match skipBlank tail with
      | [] => stop .valueUnfinished []
      | b :: tail => if b = 93 then stop .trailingComma tail else .ok (true, b :: tail)
    else stop .listSeparatorExpected tail

/-- Reads the bracket that closes a list whose elements have all been read. -/
def closeList (rest : Bytes) : Except Misread Bytes :=
  match skipBlank rest with
  | [] => stop .listUnfinished []
  | b :: tail =>
    if b = 93 then .ok tail
    else if b = 44 then
      match skipBlank tail with
      | 93 :: tail => stop .trailingComma tail
      | rest => stopPast .trailingText rest
    else stop .trailingText tail

theorem length_lt_of_name {rest rest' : Bytes} {name : Option String}
    (h : nextMember.name rest = .ok (name, rest')) : rest'.length < rest.length := by
  unfold nextMember.name at h
  split at h
  · simp [stop] at h
  · split at h
    · obtain ⟨⟨t, r⟩, hr, he⟩ := eq_ok_of_map h
      have := length_lt_of_readString hr
      simp only [Prod.mk.injEq] at he
      rw [← he.2, List.length_cons]; omega
    · simp [stop] at h

/-- The name of a member takes at least one byte. -/
theorem length_lt_of_nextMember {isFirst : Bool} {rest rest' : Bytes} {name : Option String}
    (h : nextMember isFirst rest = .ok (name, rest')) : rest'.length < rest.length := by
  have hblank := length_skipBlank_le rest
  unfold nextMember at h
  split at h
  · simp [stop] at h
  · next b tail heq =>
    rw [heq, List.length_cons] at hblank
    split at h
    · simp only [Except.ok.injEq, Prod.mk.injEq] at h
      rw [← h.2]; omega
    · split at h
      · have := length_lt_of_name h
        simp only [List.length_cons] at this; omega
      · split at h
        · have hblank' := length_skipBlank_le tail
          split at h
          · simp [stop] at h
          · next c tail' heq' =>
            rw [heq', List.length_cons] at hblank'
            split at h
            · simp [stop] at h
            · have := length_lt_of_name h
              simp only [List.length_cons] at this; omega
        · simp [stop] at h

/-- Reading past a value takes at least one byte. -/
theorem length_lt_of_skipNested {rigour : Rigour} {frames : List Frame} {rest rest' : Bytes}
    (h : skipNested rigour frames rest = .ok rest') : rest'.length < rest.length := by
  fun_induction skipNested rigour frames rest with
  | case1 => simp at h
  | case2 => simp at h
  | case3 frames rest read hr outer hr' =>
    simp only [Except.ok.injEq] at h
    have h1 := length_lt_of_token' hr
    have h2 := length_le_of_afterToken hr'
    have h3 := length_skipBlank_le rest
    rw [← h]; omega
  | case4 frames rest read hr frame outer rest'' hr' hlt ih =>
    have := ih h
    omega

theorem length_lt_of_skipValue {rigour : Rigour} {rest rest' : Bytes}
    (h : skipValue rigour rest = .ok rest') : rest'.length < rest.length :=
  length_lt_of_skipNested h

theorem length_lt_of_readText {rest rest' : Bytes} {text : String}
    (h : readText rest = .ok (text, rest')) : rest'.length < rest.length := by
  have hblank := length_skipBlank_le rest
  unfold readText at h
  split at h
  · simp [stop] at h
  · next b tail heq =>
    rw [heq, List.length_cons] at hblank
    split at h
    · have := length_lt_of_readString h; omega
    · simp at h

end Traversal.Json
