import Traversal.Json.Number
import Traversal.Json.Text

/-!
# The extent of a value

`skipValue` reads past one value of any depth.  It keeps the open lists and objects on a stack, the
innermost first, and works at two levels of rigour: a lax reader checks the shape of a text only, a
strict one also the range of numbers, the encoding of strings and the depth of nesting.
-/

namespace Traversal.Json

/-- How much of a value is checked. -/
inductive Rigour
  | lax
  | strict
deriving DecidableEq, Repr

/-- A list or object that has been opened. -/
inductive Frame
  | list
  | object
deriving DecidableEq, Repr

/-- The depth at which a strict reader gives up. -/
def depthLimit : Nat := 128

/-- The bracket that closes a frame. -/
def Frame.closer : Frame → UInt8
  | .list => 93
  | .object => 125

/-- The text ends inside a frame. -/
def Frame.unfinished : Frame → Cause
  | .list => .listUnfinished
  | .object => .objectUnfinished

/-- Something other than a comma or the closing bracket follows a value. -/
def Frame.separatorExpected : Frame → Cause
  | .list => .listSeparatorExpected
  | .object => .objectSeparatorExpected

/-- Reads past a number after its sign. -/
def Rigour.number (rigour : Rigour) (isNegative : Bool) (rest : Bytes) : Except Misread Bytes :=
  match rigour with
  | .lax => skipNumber rest
  | .strict => (readNumber isNegative rest).map (·.2)

/-- Reads past a string after its opening quote. -/
def Rigour.string (rigour : Rigour) (rest : Bytes) : Except Misread Bytes :=
  match rigour with
  | .lax => skipString rest
  | .strict => (readString rest).map (·.2)

/-- Whether one more frame is too many. -/
def Rigour.isTooDeep (rigour : Rigour) (frames : List Frame) : Bool :=
  rigour = .strict && depthLimit ≤ frames.length + 1

/-- Reads a whole scalar, or the bracket that opens a frame. -/
def token (rigour : Rigour) (frames : List Frame) : Bytes → Except Misread (Option Frame × Bytes)
  | [] => stopPast .valueUnfinished []
  | b :: rest =>
    if b = 91 then
      if rigour.isTooDeep frames then stop .tooDeep rest else .ok (some .list, rest)
    else if b = 123 then
      if rigour.isTooDeep frames then stop .tooDeep rest else .ok (some .object, rest)
    else if b = 34 then (rigour.string rest).map (none, ·)
    else if b = 45 then (rigour.number true rest).map (none, ·)
    else if isDigit b then (rigour.number false (b :: rest)).map (none, ·)
    else if b = 110 then (word [117, 108, 108] rest).map (none, ·)
    else if b = 116 then (word [114, 117, 101] rest).map (none, ·)
    else if b = 102 then (word [97, 108, 115, 101] rest).map (none, ·)
    else stop .valueExpected rest

/-- Reads the key and the colon that an entry of a frame begins with. -/
def key (rigour : Rigour) (frame : Frame) (rest : Bytes) : Except Misread Bytes :=
  match frame with
  | .list => .ok rest
  | .object =>
    match skipBlank rest with
    | [] => stop .objectUnfinished []
    | b :: rest =>
      if b = 34 then
        match rigour.string rest with
        | .ok rest => colon rest
        | .error misread => .error misread
      else stop .keyNotString rest

/-- Reads what a frame needs after a comma.  A strict reader names a comma that ends the entries. -/
def nextKey (rigour : Rigour) (frame : Frame) (rest : Bytes) : Except Misread Bytes :=
  match rigour, skipBlank rest with
  | .strict, [] => stop .valueUnfinished []
  | .strict, b :: tail => if b = frame.closer then stop .trailingComma tail else key rigour frame rest
  | .lax, _ => key rigour frame rest

/-- Reads on after a whole value, up to the place where the next one is due; no frames are left if
the outermost value is complete. -/
def afterValue (rigour : Rigour) : List Frame → Bytes → Except Misread (List Frame × Bytes)
  | [], rest => .ok ([], rest)
  | frame :: outer, rest =>
    match skipBlank rest with
    | [] => stop frame.unfinished []
    | b :: rest =>
      if b = frame.closer then afterValue rigour outer rest
      else if b = 44 then (nextKey rigour frame rest).map (frame :: outer, ·)
      else stop frame.separatorExpected rest

/-- Reads on after an opening bracket, up to the place where the next value is due. -/
def afterOpening (rigour : Rigour) (frame : Frame) (outer : List Frame) (rest : Bytes) :
    Except Misread (List Frame × Bytes) :=
  match skipBlank rest with
  | [] => stop frame.unfinished []
  | b :: tail =>
    if b = frame.closer then afterValue rigour outer tail
    else (key rigour frame rest).map (frame :: outer, ·)

/-- Reads on after a token. -/
def afterToken (rigour : Rigour) (frames : List Frame) :
    Option Frame × Bytes → Except Misread (List Frame × Bytes)
  | (some frame, rest) => afterOpening rigour frame frames rest
  | (none, rest) => afterValue rigour frames rest

/-! ### What is left is shorter -/

theorem eq_ok_of_map {α β : Type} {f : α → β} {r : Except Misread α} {b : β}
    (h : r.map f = .ok b) : ∃ a, r = .ok a ∧ f a = b := by
  cases r with
  | error e => simp [Except.map] at h
  | ok a => exact ⟨a, rfl, by simpa [Except.map] using h⟩

theorem length_lt_of_number {rigour : Rigour} {isNegative : Bool} {rest rest' : Bytes}
    (h : rigour.number isNegative rest = .ok rest') : rest'.length < rest.length := by
  cases rigour with
  | lax => exact length_lt_of_skipNumber h
  | strict =>
    obtain ⟨⟨n, r⟩, hr, rfl⟩ := eq_ok_of_map h
    exact length_lt_of_readNumber hr

theorem length_lt_of_string {rigour : Rigour} {rest rest' : Bytes}
    (h : rigour.string rest = .ok rest') : rest'.length < rest.length := by
  cases rigour with
  | lax => exact length_lt_of_skipString h
  | strict =>
    obtain ⟨⟨n, r⟩, hr, rfl⟩ := eq_ok_of_map h
    exact length_lt_of_readString hr

theorem length_lt_of_token {rigour : Rigour} {frames : List Frame} {rest rest' : Bytes}
    {opened : Option Frame} (h : token rigour frames rest = .ok (opened, rest')) :
    rest'.length < rest.length := by
  unfold token at h
  split at h
  · simp [stopPast] at h
  · next b tail =>
    simp only [List.length_cons]
    split at h
    · split at h
      · simp [stop] at h
      · simp only [Except.ok.injEq, Prod.mk.injEq] at h
        rw [h.2]; omega
    split at h
    · split at h
      · simp [stop] at h
      · simp only [Except.ok.injEq, Prod.mk.injEq] at h
        rw [h.2]; omega
    split at h
    · obtain ⟨r, hr, he⟩ := eq_ok_of_map h
      have := length_lt_of_string hr
      simp only [Prod.mk.injEq] at he
      rw [← he.2]; omega
    split at h
    · obtain ⟨r, hr, he⟩ := eq_ok_of_map h
      have := length_lt_of_number hr
      simp only [Prod.mk.injEq] at he
      rw [← he.2]; omega
    split at h
    · obtain ⟨r, hr, he⟩ := eq_ok_of_map h
      have := length_lt_of_number hr
      simp only [Prod.mk.injEq] at he
      rw [← he.2]
      simpa using this
    split at h
    · obtain ⟨r, hr, he⟩ := eq_ok_of_map h
      have := length_le_of_word hr
      simp only [Prod.mk.injEq] at he
      rw [← he.2]; omega
    split at h
    · obtain ⟨r, hr, he⟩ := eq_ok_of_map h
      have := length_le_of_word hr
      simp only [Prod.mk.injEq] at he
      rw [← he.2]; omega
    split at h
    · obtain ⟨r, hr, he⟩ := eq_ok_of_map h
      have := length_le_of_word hr
      simp only [Prod.mk.injEq] at he
      rw [← he.2]; omega
    · simp [stop] at h

theorem length_lt_of_token' {rigour : Rigour} {frames : List Frame} {rest : Bytes}
    {read : Option Frame × Bytes} (h : token rigour frames rest = .ok read) :
    read.2.length < rest.length := by
  obtain ⟨opened, rest'⟩ := read
  exact length_lt_of_token h

theorem length_le_of_key {rigour : Rigour} {frame : Frame} {rest rest' : Bytes}
    (h : key rigour frame rest = .ok rest') : rest'.length ≤ rest.length := by
  have hblank := length_skipBlank_le rest
  unfold key at h
  split at h
  · simp only [Except.ok.injEq] at h; simp [h]
  · split at h
    · simp [stop] at h
    · next b tail heq =>
      rw [heq, List.length_cons] at hblank
      split at h
      · split at h
        · next hs =>
          have h1 := length_lt_of_string hs
          have h2 := length_lt_of_colon h
          omega
        · simp at h
      · simp [stop] at h

theorem length_le_of_nextKey {rigour : Rigour} {frame : Frame} {rest rest' : Bytes}
    (h : nextKey rigour frame rest = .ok rest') : rest'.length ≤ rest.length := by
  unfold nextKey at h
  split at h
  · simp [stop] at h
  · split at h
    · simp [stop] at h
    · exact length_le_of_key h
  · exact length_le_of_key h

theorem length_le_of_afterValue {rigour : Rigour} {frames frames' : List Frame} {rest rest' : Bytes}
    (h : afterValue rigour frames rest = .ok (frames', rest')) : rest'.length ≤ rest.length := by
  induction frames generalizing rest with
  | nil => simp only [afterValue, Except.ok.injEq, Prod.mk.injEq] at h; simp [h.2]
  | cons frame outer ih =>
    have hblank := length_skipBlank_le rest
    unfold afterValue at h
    split at h
    · simp [stop] at h
    · next b tail heq =>
      rw [heq, List.length_cons] at hblank
      split at h
      · have := ih h; omega
      · split at h
        · obtain ⟨r, hr, he⟩ := eq_ok_of_map h
          have := length_le_of_nextKey hr
          simp only [Prod.mk.injEq] at he
          rw [← he.2]; omega
        · simp [stop] at h

theorem length_le_of_afterOpening {rigour : Rigour} {frame : Frame} {outer frames : List Frame}
    {rest rest' : Bytes} (h : afterOpening rigour frame outer rest = .ok (frames, rest')) :
    rest'.length ≤ rest.length := by
  have hblank := length_skipBlank_le rest
  unfold afterOpening at h
  split at h
  · simp [stop] at h
  · next b tail heq =>
    rw [heq, List.length_cons] at hblank
    split at h
    · have := length_le_of_afterValue h; omega
    · obtain ⟨r, hr, he⟩ := eq_ok_of_map h
      have := length_le_of_key hr
      simp only [Prod.mk.injEq] at he
      rw [← he.2]; exact this

theorem length_le_of_afterToken {rigour : Rigour} {frames frames' : List Frame}
    {read : Option Frame × Bytes} {rest' : Bytes}
    (h : afterToken rigour frames read = .ok (frames', rest')) : rest'.length ≤ read.2.length := by
  match read, h with
  | (some _, _), h => exact length_le_of_afterOpening h
  | (none, _), h => exact length_le_of_afterValue h

/-! ### Whole values -/

/-- Reads past a value that is due inside some frames, and past all that closes them. -/
def skipNested (rigour : Rigour) (frames : List Frame) (rest : Bytes) : Except Misread Bytes :=
  match h : token rigour frames (skipBlank rest) with
  | .error misread => .error misread
  | .ok read =>
    match h' : afterToken rigour frames read with
    | .error misread => .error misread
    | .ok ([], rest') => .ok rest'
    | .ok (frame :: outer, rest') =>
      have : rest'.length < rest.length := by
        have h1 := length_lt_of_token' h
        have h2 := length_le_of_afterToken h'
        have h3 := length_skipBlank_le rest
        omega
      skipNested rigour (frame :: outer) rest'
termination_by rest.length

/-- Reads past one value. -/
def skipValue (rigour : Rigour) (rest : Bytes) : Except Misread Bytes :=
  skipNested rigour [] rest

/-- Nothing but blanks is left. -/
def finish (rest : Bytes) : Except Misread Unit :=
  match skipBlank rest with
  | [] => .ok ()
  | _ :: rest => stop .trailingText rest

/-- Why a text is no JSON value, if it is none. -/
def fault? (text : Bytes) : Option Fault :=
  match skipValue .strict text >>= finish with
  | .ok () => none
  | .error misread => some (misread.place text)

end Traversal.Json
