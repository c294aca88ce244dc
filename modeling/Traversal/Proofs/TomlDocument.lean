import Mathlib
import Traversal.Proofs.TomlValue
import Traversal.Toml.Document

/-!
# Documents as they can be written

A `Document` is a sequence of rows without table headers.  A row has an entry or not, with blanks and comments
at will; the key of an entry has names in any of the three spellings, and its value is any literal.

Row by row the reader adds what the entry is read as to the draft (`exists_adds_rows`), so that the whole
document comes to adding its entries in their order (`exists_parse_eq`).
-/

namespace Traversal.Toml

open Reader

variable {s : Place}

/-! ### Results of several steps -/

section Steps

variable {α β ε : Type} {f : β → α → Except ε β}

/-- Where two steps go well, the first one does. -/
lemma of_bind_eq_ok {x : Except ε α} {g : α → Except ε β} {b : β} (h : (x >>= g) = .ok b) :
    ∃ a, x = .ok a ∧ g a = .ok b := by
  cases x with
  | ok a => exact ⟨a, rfl, h⟩
  | error e => cases h

/-- Where a result is changed, there is one. -/
lemma of_map_eq_ok {x : Except ε α} {g : α → β} {b : β} (h : x.map g = .ok b) : ∃ a, x = .ok a ∧ g a = b := by
  cases x with
  | ok a => exact ⟨a, rfl, Except.ok.inj h⟩
  | error e => cases h

/-- Going through a list that has a first element. -/
lemma foldlM_cons_eq_ok {a : α} {as : List α} {x z : β} :
    (a :: as).foldlM f x = .ok z ↔ ∃ y, f x a = .ok y ∧ as.foldlM f y = .ok z := by
  rw [List.foldlM_cons]
  refine ⟨of_bind_eq_ok, ?_⟩
  rintro ⟨y, hy, h⟩
  rw [hy]
  exact h

/-- What every step keeps, seen with the elements passed so far, holds at the end. -/
lemma of_foldlM_eq_ok {P : List α → β → Prop} {as : List α} {x z : β}
    (hstep : ∀ before, ∀ a ∈ as, ∀ x y, P before x → f x a = .ok y → P (before ++ [a]) y)
    (hx : P [] x) (h : as.foldlM f x = .ok z) : P as z := by
  have hall : ∀ rest before x, (∀ a ∈ rest, a ∈ as) → P before x → rest.foldlM f x = .ok z →
      P (before ++ rest) z := by
    intro rest
    induction rest with
    | nil =>
      intro before x _ hx h
      obtain rfl : x = z := Except.ok.inj h
      rwa [List.append_nil]
    | cons a rest ih =>
      intro before x hrest hx h
      obtain ⟨y, hy, h⟩ := foldlM_cons_eq_ok.mp h
      rw [List.append_cons]
      exact ih _ y (fun b hb => hrest b (List.mem_cons_of_mem _ hb))
        (hstep before a (hrest a List.mem_cons_self) x y hx hy) h
  exact hall as [] x (fun _ ha => ha) hx h

end Steps

/-! ### Keys -/

/-- A name of a key as it can be written. -/
inductive NameText
  | bare (chars : List Char) (hne : chars ≠ []) (hall : ∀ c ∈ chars, isBareChar c = true)
  | basic (pieces : List Piece)
  | literal (chars : List Char) (hall : ∀ c ∈ chars, isLiteralChar c = true)

namespace NameText

/-- A name as it is written. -/
def chars : NameText → List Char
  | bare chars _ _ => chars
  | basic pieces => quoted pieces
  | literal chars _ => '\'' :: (chars ++ ['\''])

/-- The name that is meant. -/
def name : NameText → String
  | bare chars _ _ => String.ofList chars
  | basic pieces => textOf pieces
  | literal chars _ => String.ofList chars

end NameText

/-- A further name of a key, behind a point. -/
structure Step where
  before : Blanks := {}
  name : NameText
  behind : Blanks := {}

/-- A further name as it is written. -/
def Step.chars (step : Step) : List Char :=
  '.' :: (step.before.chars ++ (step.name.chars ++ step.behind.chars))

/-- A key as it can be written: its names with points and blanks between them. -/
structure KeyText where
  first : NameText
  behind : Blanks := {}
  more : List Step := []
  shallow : more.length + 1 < depthLimit := by decide

namespace KeyText

/-- A key as it is written. -/
def chars (k : KeyText) : List Char :=
  k.first.chars ++ (k.behind.chars ++ k.more.flatMap Step.chars)

/-- The names of a key. -/
def names (k : KeyText) : List String :=
  k.first.name :: k.more.map (·.name.name)

end KeyText

/-- A name is read as what is meant. -/
lemma name_chars (n : NameText) (h : NotNext isBareChar s) :
    ∃ chars, name (n.chars ++ s) = .ok (chars, s) ∧ String.ofList chars = n.name := by
  cases n with
  | bare chars hne hall =>
    obtain ⟨c, rest, rfl⟩ := List.exists_cons_of_ne_nil hne
    have hc : isBareChar c = true := hall c List.mem_cons_self
    have hread := takeWhile1_append hne hall h
    refine ⟨c :: rest, ?_, rfl⟩
    rw [NameText.chars, List.cons_append] at *
    unfold name
    split
    · next heq => cases heq
    · next heq => cases heq; cases hc
    · next heq => cases heq; cases hc
    · exact hread
  | basic pieces => exact ⟨_, basicString_quoted pieces s, rfl⟩
  | literal chars hall =>
    have hread : literalString ('\'' :: (chars ++ '\'' :: s)) = .ok (chars, s) := by
      refine named_of_ok ?_ _
      rw [bind_of_ok (char_cons '\'' _), bind_of_ok (takeWhile_append hall (notNext_cons rfl s)),
        bind_of_ok (must_of_ok (char_cons '\'' s))]
      rfl
    refine ⟨chars, ?_, rfl⟩
    rw [NameText.chars, List.cons_append, List.append_assoc, List.singleton_append]
    exact hread

/-- A name begins with one of the characters that a name can begin with. -/
lemma NameText.exists_chars_eq (n : NameText) (s : Place) :
    ∃ c rest, n.chars ++ s = c :: rest ∧ (isBareChar c || c = '"' || c = '\'') = true := by
  cases n with
  | bare chars hne hall =>
    obtain ⟨c, rest, rfl⟩ := List.exists_cons_of_ne_nil hne
    exact ⟨c, rest ++ s, rfl, by simp [hall c List.mem_cons_self]⟩
  | basic pieces => exact ⟨_, _, rfl, rfl⟩
  | literal chars hall => exact ⟨_, _, rfl, rfl⟩

/-- What no name begins with does not come at the beginning of one. -/
lemma NameText.notNext {p : Char → Bool} (n : NameText) (s : Place)
    (h : ∀ c, p c = true → (isBareChar c || c = '"' || c = '\'') = false) : NotNext p (n.chars ++ s) := by
  obtain ⟨c, rest, heq, hc⟩ := n.exists_chars_eq s
  rw [heq]
  refine notNext_cons (Bool.eq_false_iff.mpr fun hp => ?_) rest
  rw [h c hp] at hc
  cases hc

/-- What comes behind a name of a key: a point or the equals sign. -/
def joints : List Char :=
  ['.', '=']

/-- A name is read with the blanks around it. -/
lemma spacedName_chars (before : Blanks) (n : NameText) (behind : Blanks) (h : NextIn joints s) : ∃ key,
    spacedName (before.chars ++ (n.chars ++ (behind.chars ++ s))) = .ok (key, s) ∧ key.name = n.name := by
  have hblank : NotNext isBlank (n.chars ++ (behind.chars ++ s)) :=
    n.notNext _ fun c hc => by
      rcases (by simpa [isBlank] using hc : c = ' ' ∨ c = '\t') with rfl | rfl <;> rfl
  have hbare : NotNext isBareChar (behind.chars ++ s) := behind.notNext rfl (h.notNext rfl)
  obtain ⟨chars, hname, hchars⟩ := name_chars n hbare
  have hbefore := blanks_append before hblank
  have hbehind := blanks_append behind (h.notNext (p := isBlank) rfl)
  exact ⟨_, (bind_of_ok hbefore).trans ((bind_of_ok (spanned_of_ok hname)).trans (bind_of_ok hbehind)), hchars⟩

/-- Reads a point. -/
def point : Reader Unit := do
  let _ ← char '.'

/-- A point is read. -/
lemma point_cons (s : Place) : point ('.' :: s) = .ok ((), s) := rfl

/-- A joint comes behind every name of a key. -/
lemma nextIn_steps (steps : List Step) (s : Place) :
    NextIn joints (steps.flatMap Step.chars ++ '=' :: s) := by
  cases steps with
  | nil => exact ⟨_, _, rfl, by decide⟩
  | cons step steps => exact ⟨_, _, rfl, by decide⟩

/-- The further names of a key are read one by one, up to the equals sign. -/
lemma readsAll_steps (steps : List Step) (s : Place) : ∃ read,
    ReadsAll (do point; spacedName) (steps.flatMap Step.chars ++ '=' :: s) read ('=' :: s) ∧
      read.map (·.name) = steps.map (·.name.name) := by
  induction steps with
  | nil => exact ⟨[], .nil (char_balks (notNext_cons rfl s)).bind.bind, rfl⟩
  | cons step steps ih =>
    obtain ⟨read, hread, hnames⟩ := ih
    obtain ⟨key, hkey, hname⟩ := spacedName_chars step.before step.name step.behind (nextIn_steps steps s)
    refine ⟨key :: read, ?_, by rw [List.map_cons, List.map_cons, hname, hnames]⟩
    simp only [List.flatMap_cons, Step.chars, List.cons_append, List.append_assoc]
    refine .cons ((bind_of_ok (f := fun _ => spacedName) (point_cons _)).trans hkey) ?_ hread
    simp only [List.length_cons, List.length_append]
    omega

/-- A key is read up to its equals sign. -/
theorem key_chars (k : KeyText) (s : Place) : ∃ keys,
    key (k.chars ++ '=' :: s) = .ok (keys, '=' :: s) ∧ keys.map (·.name) = k.names := by
  obtain ⟨more, hmore, hnames⟩ := readsAll_steps k.more s
  obtain ⟨first, hfirst, hname⟩ := spacedName_chars {} k.first k.behind (nextIn_steps k.more s)
  have hlength : (first :: more).length < depthLimit := by
    have hsame := congrArg List.length hnames
    rw [List.length_map, List.length_map] at hsame
    rw [List.length_cons, hsame]
    exact k.shallow
  have hread : named (separated1 spacedName point) "key" (k.chars ++ '=' :: s) =
      .ok (first :: more, '=' :: s) := by
    rw [KeyText.chars, List.append_assoc, List.append_assoc]
    exact named_of_ok (separated1_of_readsAll hfirst hmore) _
  refine ⟨first :: more, checked_of_ok hread (if_pos hlength), ?_⟩
  rw [List.map_cons, hname, hnames, KeyText.names]

/-! ### Entries -/

/-- An entry as it can be written. -/
structure EntryText where
  key : KeyText
  /-- What stands behind the equals sign. -/
  gap : Blanks := {}
  literal : Literal

/-- An entry as it is written. -/
def EntryText.chars (e : EntryText) : List Char :=
  e.key.chars ++ '=' :: (e.gap.chars ++ e.literal.chars)

/-- The names of an entry's key. -/
def Entry.names (e : Entry) : List String :=
  e.path.map (·.name) ++ [e.key.name]

/-- What an entry is read as: its names, and a value that its literal is read as. -/
def EntryText.Reads (e : EntryText) (read : Entry) : Prop :=
  read.names = e.key.names ∧ e.literal.Reads read.value

/-! ### Rows -/

/-- What a row holds. -/
inductive Content
  | remark (comment : Option Comment)
  | entry (e : EntryText) (trail : Trail)

/-- What a row holds, as it is written. -/
def Content.chars : Content → List Char
  | remark comment => (comment.map Comment.text).getD []
  | entry e trail => e.chars ++ trail.chars

/-- The entries of a row, of which there is one at most. -/
def Content.entries : Content → List EntryText
  | remark _ => []
  | entry e _ => [e]

/-- A row. -/
structure Row where
  indent : Blanks := {}
  content : Content := .remark none

/-- A row as it is written. -/
def Row.chars (r : Row) : List Char :=
  r.indent.chars ++ r.content.chars

/-- The further rows of a document, each behind a line break. -/
abbrev Rows := List (Break × Row)

namespace Rows

/-- Further rows as they are written. -/
def chars (rows : Rows) : List Char :=
  rows.flatMap fun r => r.1.chars ++ r.2.chars

/-- What comes behind the first line break. -/
def next : Rows → Place
  | [] => []
  | (_, r) :: rows => r.chars ++ chars rows

/-- What comes behind the first line break and the blanks behind it. -/
def start : Rows → Place
  | [] => []
  | (_, r) :: rows => r.content.chars ++ chars rows

/-- The entries of rows. -/
def entries (rows : Rows) : List EntryText :=
  rows.flatMap (·.2.content.entries)

/-- Further rows begin with a line break. -/
lemma atBreak_chars (rows : Rows) : AtBreak rows.chars := by
  cases rows with
  | nil => exact .inl rfl
  | cons r rows =>
    refine .inr ⟨r.1, r.2.chars ++ chars rows, ?_⟩
    rw [chars, List.flatMap_cons, List.append_assoc]
    rfl

end Rows

/-- The end of a line is read. -/
lemma lineEnd_rows (rows : Rows) : lineEnd rows.chars = .ok ((), rows.next) := by
  cases rows with
  | nil => rfl
  | cons r rows =>
    rw [Rows.chars, List.flatMap_cons, List.append_assoc]
    exact orElse_of_ok (lineBreak_append r.1 _)

/-- What may follow an entry on its line is read. -/
lemma lineRest_rows (t : Trail) (rows : Rows) :
    lineRestOrComment (t.chars ++ rows.chars) = .ok ((), rows.next) := by
  have hbreak := rows.atBreak_chars
  obtain ⟨found, hcomment⟩ :=
    optional_comment_append t.comment (hbreak.notNext rfl rfl) (hbreak.notNext rfl rfl)
  have hblank : NotNext isBlank ((t.comment.map Comment.text).getD [] ++ rows.chars) := by
    cases t.comment with
    | none => exact hbreak.notNext rfl rfl
    | some c => exact notNext_cons rfl _
  refine expecting_of_ok ?_ _
  rw [Trail.chars, List.append_assoc, lineRest, bind_of_ok (blanks_append t.blanks hblank), bind_of_ok hcomment]
  exact lineEnd_rows rows

/-- A value does not begin with a blank. -/
lemma notNext_isBlank_of_value {depth : Nat} {v : Value} {s' : Place} (h : value depth s = .ok (v, s')) :
    NotNext isBlank s := by
  obtain ⟨inBrackets, inBraces, heq⟩ := exists_value_eq depth
  rw [heq] at h
  cases s with
  | nil => cases h
  | cons c rest =>
    refine notNext_cons (Bool.eq_false_iff.mpr fun hc => ?_) rest
    rcases (by simpa [isBlank] using hc : c = ' ' ∨ c = '\t') with rfl | rfl <;> cases h

/-- An entry is read with the rest of its line. -/
theorem exists_entry (e : EntryText) (t : Trail) (rows : Rows) : ∃ read,
    entry (value (depthLimit - 1)) lineRestOrComment (e.chars ++ (t.chars ++ rows.chars)) =
        .ok (read, rows.next) ∧ e.Reads read := by
  have hends : EndsLine (t.chars ++ rows.chars) := ⟨t, _, rfl, rows.atBreak_chars⟩
  obtain ⟨v, hv⟩ := e.literal.isValue _ hends
  obtain ⟨keys, hkeys, hnames⟩ :=
    key_chars e.key (e.gap.chars ++ (e.literal.chars ++ (t.chars ++ rows.chars)))
  have hequals := expecting_of_ok
    (char_cons '=' (e.gap.chars ++ (e.literal.chars ++ (t.chars ++ rows.chars)))) ["`.`", "`=`"]
  have hgap := blanks_append e.gap (notNext_isBlank_of_value hv)
  have hrest := lineRest_rows t rows
  obtain ⟨last, before, hreverse⟩ : ∃ last before, keys.reverse = last :: before := by
    refine List.exists_cons_of_ne_nil fun hnil => ?_
    rw [List.reverse_eq_nil_iff.mp hnil] at hnames
    cases hnames
  have hsplit : keys = before.reverse ++ [last] := by
    rw [← List.reverse_reverse keys, hreverse, List.reverse_cons]
  refine ⟨⟨before.reverse, last, v, ⟨e.literal.chars ++ (t.chars ++ rows.chars), t.chars ++ rows.chars⟩⟩,
    ?_, ?_, _, hends, hv⟩
  · rw [EntryText.chars, List.append_assoc, List.cons_append, List.append_assoc, entry, bind_of_ok hkeys]
    refine must_of_ok ((bind_of_ok hequals).trans ((bind_of_ok hgap).trans ?_))
    refine (bind_of_ok (spanned_of_ok hv)).trans ((bind_of_ok hrest).trans ?_)
    simp only [hreverse]
    rfl
  · rw [← hnames, hsplit, List.map_append]
    rfl

/-! ### Reading rows -/

/-- A row begins with no blank, as far as its content goes. -/
lemma notNext_isBlank_content (content : Content) (rows : Rows) :
    NotNext isBlank (content.chars ++ rows.chars) := by
  cases content with
  | remark comment =>
    cases comment with
    | none => exact rows.atBreak_chars.notNext rfl rfl
    | some c => exact notNext_cons rfl _
  | entry e trail =>
    simp only [Content.chars, EntryText.chars, KeyText.chars, List.append_assoc]
    refine e.key.first.notNext _ fun c hc => ?_
    rcases (by simpa [isBlank] using hc : c = ' ' ∨ c = '\t') with rfl | rfl <;> rfl

/-- The blanks at the beginning of a row are read over. -/
lemma blanks_next (rows : Rows) : blanks rows.next = .ok ((), rows.start) := by
  cases rows with
  | nil => rfl
  | cons r rows =>
    rw [Rows.next, Row.chars, List.append_assoc]
    exact blanks_append _ (notNext_isBlank_content _ _)

variable {draft draft' : Draft}

/-- A row without an entry is read over. -/
lemma line_remark (comment : Option Comment) (rows : Rows) (h : comment.isSome ∨ rows ≠ []) :
    line draft ((Content.remark comment).chars ++ rows.chars) = .ok (draft, rows.next) := by
  cases comment with
  | some c =>
    have hread := comment_append c (s := rows.chars) (rows.atBreak_chars.notNext rfl rfl)
    have hend : must (do comment; lineEnd) (c.text ++ rows.chars) = .ok ((), rows.next) :=
      must_of_ok ((bind_of_ok hread).trans (lineEnd_rows rows))
    exact bind_of_ok (f := fun _ => Pure.pure draft) hend
  | none =>
    cases rows with
    | nil => simp at h
    | cons r rows =>
      have hbreak : lineBreak (Rows.chars (r :: rows)) = .ok ((), Rows.next (r :: rows)) := by
        rw [Rows.chars, List.flatMap_cons, List.append_assoc]
        exact lineBreak_append _ _
      have hread := bind_of_ok (f := fun _ => Pure.pure draft) hbreak
      change line draft (Rows.chars (r :: rows)) = _
      obtain ⟨c, rest, heq, hc⟩ := r.1.exists_chars_eq (r.2.chars ++ Rows.chars rows)
      have hchars : Rows.chars (r :: rows) = c :: rest := by
        rw [← heq, Rows.chars, List.flatMap_cons, List.append_assoc]
        rfl
      rw [hchars] at hread ⊢
      rcases hc with rfl | rfl <;> exact hread

/-- A row with an entry is read like the entry. -/
lemma line_entry (e : EntryText) (trail : Trail) (rows : Rows) :
    line draft ((Content.entry e trail).chars ++ rows.chars) =
      must (apply (entry (value (depthLimit - 1)) lineRestOrComment) draft.add)
        (e.chars ++ (trail.chars ++ rows.chars)) := by
  obtain ⟨c, rest, heq, hc⟩ := e.key.first.exists_chars_eq
    (e.key.behind.chars ++ (e.key.more.flatMap Step.chars ++
      '=' :: (e.gap.chars ++ (e.literal.chars ++ (trail.chars ++ rows.chars)))))
  have hchars : e.chars ++ (trail.chars ++ rows.chars) = c :: rest := by
    rw [← heq]
    simp only [EntryText.chars, KeyText.chars, List.append_assoc, List.cons_append]
  have hne : ∀ d : Char, (isBareChar d || d = '"' || d = '\'') = false → c ≠ d := by
    rintro d hd rfl
    rw [hc] at hd
    cases hd
  rw [Content.chars, List.append_assoc, hchars]
  simp only [line, hne '#' rfl, hne '[' rfl, hne '\n' rfl, hne '\r' rfl, decide_false, Bool.or_self,
    Bool.false_eq_true, if_false]

/-- Reading goes on behind a line that is read. -/
lemma lines_of_ok {n : Nat} {rows : Rows} (h : line draft s = .ok (draft', rows.next)) :
    lines (n + 1) draft s = lines n draft' rows.start := by
  have hread : (do let draft ← line draft; blanks; return draft : Reader Draft) s = .ok (draft', rows.start) :=
    (bind_of_ok h).trans (bind_of_ok (blanks_next rows))
  simp only [lines, hread]

/-- Reading ends at a line that is refused for good. -/
lemma lines_of_breaks (n : Nat) (h : Breaks (line draft) s) :
    ∃ refusal, lines (n + 1) draft s = .error refusal := by
  obtain ⟨refusal, heq, hfinal⟩ := h
  have hread : (do let draft ← line draft; blanks; return draft : Reader Draft) s = .error refusal :=
    bind_of_error heq
  exact ⟨refusal, by simp only [lines, hread, hfinal, if_true]⟩

/-- Reading ends behind the last row. -/
lemma lines_nil (n : Nat) (draft : Draft) : lines n draft [] = .ok (draft, []) := by
  cases n <;> rfl

/-- Reading all lines from a place on comes to adding given entries: it ends behind the last line with what they
make of a draft, or it is refused as one of them is. -/
def Adds (read : List Entry) (place : Place) : Prop :=
  ∀ n draft, place.length ≤ n →
    match read.foldlM Draft.add draft with
    | .ok draft' => lines n draft place = .ok (draft', [])
    | .error _ => ∃ refusal, lines n draft place = .error refusal

/-- A break stands between two rows. -/
lemma length_start_lt {rows : Rows} (h : rows ≠ []) : rows.start.length < rows.chars.length := by
  cases rows with
  | nil => exact absurd rfl h
  | cons r rows =>
    have hbreak : 0 < r.1.chars.length := by cases r.1 <;> decide
    simp only [Rows.start, Rows.chars, Row.chars, List.flatMap_cons, List.length_append]
    omega

/-- What remains behind a row is no longer than what comes behind its content. -/
lemma length_start_le (rows : Rows) : rows.start.length ≤ rows.chars.length := by
  cases rows with
  | nil => exact le_rfl
  | cons r rows => exact (length_start_lt (List.cons_ne_nil _ _)).le

/-- A row without an entry adds nothing. -/
lemma adds_remark (comment : Option Comment) (rows : Rows) {read : List Entry} (hrest : Adds read rows.start) :
    Adds read ((Content.remark comment).chars ++ rows.chars) := by
  by_cases hempty : comment = none ∧ rows = []
  · obtain ⟨rfl, rfl⟩ := hempty
    exact hrest
  · have hsome : comment.isSome ∨ rows ≠ [] := by
      cases comment with
      | none => exact .inr fun hrows => hempty ⟨rfl, hrows⟩
      | some c => exact .inl rfl
    have hlength : rows.start.length < ((Content.remark comment).chars ++ rows.chars).length := by
      cases comment with
      | none => exact length_start_lt (hsome.resolve_left (by decide))
      | some c =>
        have hle := length_start_le rows
        simp only [Content.chars, Option.map_some, Option.getD_some, Comment.text, List.length_append,
          List.length_cons]
        omega
    intro n draft hn
    obtain ⟨n, rfl⟩ : ∃ m, n = m + 1 := Nat.exists_eq_succ_of_ne_zero (by omega)
    rw [lines_of_ok (line_remark comment rows hsome)]
    exact hrest n draft (by omega)

/-- A row with an entry adds what the entry is read as. -/
lemma adds_entry (e : EntryText) (trail : Trail) (rows : Rows) {read : List Entry}
    (hrest : Adds read rows.start) : ∃ first,
      e.Reads first ∧ Adds (first :: read) ((Content.entry e trail).chars ++ rows.chars) := by
  obtain ⟨first, hfirst, hreads⟩ := exists_entry e trail rows
  refine ⟨first, hreads, fun n draft hn => ?_⟩
  have hlength : rows.start.length < ((Content.entry e trail).chars ++ rows.chars).length := by
    have hle := length_start_le rows
    simp only [Content.chars, EntryText.chars, List.length_append, List.length_cons]
    omega
  obtain ⟨n, rfl⟩ : ∃ m, n = m + 1 := Nat.exists_eq_succ_of_ne_zero (by omega)
  rw [List.foldlM_cons]
  cases hadd : draft.add first with
  | ok draft' =>
    rw [lines_of_ok ((line_entry e trail rows).trans (must_of_ok (checked_of_ok hfirst hadd)))]
    exact hrest n draft' (by omega)
  | error objection =>
    refine lines_of_breaks n ?_
    obtain ⟨refusal, hrefusal, -⟩ := checked_of_objection hfirst hadd
    obtain ⟨refusal', hbreaks, hfinal⟩ := must_of_error hrefusal
    exact ⟨refusal', (line_entry e trail rows).trans hbreaks, hfinal⟩

/-- One row is read in front of others. -/
lemma exists_adds_content (content : Content) (rows : Rows) {read : List Entry}
    (hreads : List.Forall₂ EntryText.Reads rows.entries read) (hrest : Adds read rows.start) : ∃ read',
      List.Forall₂ EntryText.Reads (content.entries ++ rows.entries) read' ∧
        Adds read' (content.chars ++ rows.chars) := by
  cases content with
  | remark comment => exact ⟨read, hreads, adds_remark comment rows hrest⟩
  | entry e trail =>
    obtain ⟨first, hfirst, hadds⟩ := adds_entry e trail rows hrest
    exact ⟨first :: read, .cons hfirst hreads, hadds⟩

/-- Rows are read one by one, and what their entries are read as is added. -/
theorem exists_adds_rows (content : Content) (rows : Rows) : ∃ read,
    List.Forall₂ EntryText.Reads (content.entries ++ rows.entries) read ∧
      Adds read (content.chars ++ rows.chars) := by
  induction rows generalizing content with
  | nil => exact exists_adds_content content [] .nil fun n draft _ => lines_nil n draft
  | cons r rows ih =>
    obtain ⟨read, hreads, hrest⟩ := ih r.2.content
    exact exists_adds_content content (r :: rows) hreads hrest

/-! ### Documents -/

/-- A document without table headers. -/
structure Document where
  first : Row := {}
  rows : Rows := []

namespace Document

/-- A document as it is written. -/
def chars (d : Document) : List Char :=
  d.first.chars ++ d.rows.chars

/-- The text of a document. -/
def text (d : Document) : String :=
  String.ofList d.chars

/-- The entries of a document in their order. -/
def entries (d : Document) : List EntryText :=
  d.first.content.entries ++ d.rows.entries

end Document

/-- A row does not begin with a mark of the encoding. -/
lemma notNext_mark (r : Row) (rows : Rows) : NotNext (· = '\ufeff') (r.chars ++ rows.chars) := by
  rw [Row.chars, List.append_assoc]
  refine r.indent.notNext rfl ?_
  cases r.content with
  | remark comment =>
    cases comment with
    | none => exact rows.atBreak_chars.notNext rfl rfl
    | some c => exact notNext_cons rfl _
  | entry e trail =>
    simp only [Content.chars, EntryText.chars, KeyText.chars, List.append_assoc]
    refine e.key.first.notNext _ fun c hc => ?_
    obtain rfl : c = '\ufeff' := by simpa using hc
    rfl

/-- The current table of a draft with the stretch that it has when an entry is added. -/
def Draft.stretched (draft : Draft) (e : Entry) : Table :=
  { draft.current with
    origin := { draft.current.origin with
      span := draft.current.origin.span.map fun span => ⟨span.start, e.span.stop⟩ } }

/-- An entry is added to a draft by adding it to the current table. -/
lemma Draft.add_eq (draft : Draft) (e : Entry) : draft.add e =
    ((draft.stretched e).add draft.header.names e).map fun current => { draft with current } := by
  rw [Draft.add, Draft.stretched]
  cases Table.add _ draft.header.names e <;> rfl

/-- The header of a draft stays when entries are added. -/
lemma header_of_foldlM {read : List Entry} (h : read.foldlM Draft.add draft = .ok draft') :
    draft'.header = draft.header := by
  refine of_foldlM_eq_ok (P := fun _ d => d.header = draft.header) ?_ rfl h
  intro _ e _ x y hx hy
  rw [Draft.add_eq] at hy
  obtain ⟨current, -, rfl⟩ := of_map_eq_ok hy
  exact hx

/-- A document is the table that its entries are added to one by one, and refused where one is. -/
theorem exists_parse_eq (d : Document) : ∃ read, List.Forall₂ EntryText.Reads d.entries read ∧
    match read.foldlM Draft.add (Draft.empty d.chars) with
    | .ok draft => parse d.text = .ok draft.current
    | .error _ => ∃ fault, parse d.text = .error fault := by
  obtain ⟨read, hreads, hadds⟩ := exists_adds_rows d.first.content d.rows
  refine ⟨read, hreads, ?_⟩
  have hlength : (d.first.content.chars ++ d.rows.chars).length ≤ d.chars.length := by
    rw [Document.chars, Row.chars, List.append_assoc]
    simp only [List.length_append]
    omega
  have hlines := hadds d.chars.length (Draft.empty d.chars) hlength
  have hmark := optional_of_balks (char_balks (notNext_mark d.first d.rows))
  have hblanks : blanks d.chars = .ok ((), d.first.content.chars ++ d.rows.chars) := by
    rw [Document.chars, Row.chars, List.append_assoc]
    exact blanks_append _ (notNext_isBlank_content _ _)
  cases hfold : read.foldlM Draft.add (Draft.empty d.chars) with
  | ok draft =>
    rw [hfold] at hlines
    have hdocument : document d.chars = .ok (draft, []) :=
      (bind_of_ok hmark).trans ((bind_of_ok hblanks).trans (bind_of_ok hlines))
    have hfinish : draft.finish = .ok draft.current := by
      rw [Draft.finish, header_of_foldlM hfold]
      rfl
    simp only [parse, Document.text, String.toList_ofList, checked_of_ok hdocument hfinish]
  | error objection =>
    rw [hfold] at hlines
    obtain ⟨refusal, hrefusal⟩ := hlines
    have hdocument : document d.chars = .error refusal :=
      (bind_of_ok hmark).trans ((bind_of_ok hblanks).trans (bind_of_error hrefusal))
    exact ⟨_, by simp only [parse, Document.text, String.toList_ofList, checked, hdocument]; rfl⟩

end Traversal.Toml
