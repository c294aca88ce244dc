import Mathlib
import Traversal.Proofs.PathText

/-!
# Where the marker shows up in the text of a path

A record is taken for an outcome if the bytes of the marker occur in it.  The JSON text of a path has the marker
only where the text of an endpoint makes it, and that can happen through an escape: the marker begins with the
digit five, and so do not only the characters after a five read like the marker, but also those after the two
control characters whose numeric escapes end in a five.

The text is written in two steps, characters as escapes and escapes as bytes, and both write one symbol after
the other.  `infix_flatMap_iff` says for any such way of writing where a word occurs whose first sign may be the
end of a longer symbol and whose other signs are symbols of their own.  It is used once for each step.
-/

namespace Traversal

open Bytes Json

/-! ### Words in a text that is written symbol by symbol -/

section Symbols

variable {α β : Type} (f : α → List β)

/-- A symbol that is written as one sign, with which no other symbol begins. -/
def IsPlain (a : α) : Prop :=
  ∃ b, f a = [b] ∧ ∀ c, (f c).head? = some b → c = a

variable {f}

/-- What is written begins with a word of plain symbols if the symbols begin with it. -/
lemma flatMap_prefix_iff (hne : ∀ c, f c ≠ []) {word : List α} (hword : ∀ a ∈ word, IsPlain f a)
    (text : List α) : word.flatMap f <+: text.flatMap f ↔ word <+: text := by
  induction word generalizing text with
  | nil => simp
  | cons a word ih =>
    obtain ⟨b, hb, honly⟩ := hword a List.mem_cons_self
    have hrest := ih fun a' ha' => hword a' (List.mem_cons_of_mem _ ha')
    cases text with
    | nil => simp [hb]
    | cons c text =>
      rw [List.flatMap_cons, List.flatMap_cons, hb, List.singleton_append, List.cons_prefix_cons]
      by_cases hc : c = a
      · rw [hc, hb, List.singleton_append, List.cons_prefix_cons, hrest]
        simp
      · obtain ⟨b', rest, hrest'⟩ := List.exists_cons_of_ne_nil (hne c)
        have hb' : b ≠ b' := by
          rintro rfl
          exact hc (honly c (by rw [hrest', List.head?_cons]))
        rw [hrest', List.cons_append, List.cons_prefix_cons]
        simp [hb', Ne.symm hc]

/-- A word that goes on behind its first sign with a sign from no inner place of a block begins at the end of the
block, or behind it. -/
lemma infix_append_iff {x y : β} {word block rest : List β} (hne : block ≠ []) (hy : y ∉ block.tail) :
    x :: y :: word <:+: block ++ rest ↔
      block.getLast? = some x ∧ y :: word <+: rest ∨ x :: y :: word <:+: rest := by
  induction block with
  | nil => exact absurd rfl hne
  | cons b block ih =>
    rw [List.cons_append, List.infix_cons_iff, List.cons_prefix_cons]
    cases block with
    | nil =>
      rw [List.nil_append, List.getLast?_singleton, Option.some.injEq]
      exact or_congr_left (and_congr_left' eq_comm)
    | cons b' block =>
      rw [List.tail_cons, List.mem_cons, not_or] at hy
      have hfirst : ¬ (x = b ∧ y :: word <+: b' :: block ++ rest) := by
        rintro ⟨-, hprefix⟩
        rw [List.cons_append, List.cons_prefix_cons] at hprefix
        exact hy.1 hprefix.1
      rw [ih (List.cons_ne_nil _ _) hy.2, List.getLast?_cons_cons]
      exact or_iff_right hfirst

/-- A word whose first sign ends a symbol and whose other signs are plain symbols, the first of them from no inner
place of a symbol, occurs in what is written where the symbols say so. -/
theorem infix_flatMap_iff (hne : ∀ c, f c ≠ []) {x y : β} {a : α} {word : List α} (hy : f a = [y])
    (hinner : ∀ c, y ∉ (f c).tail) (hword : ∀ a' ∈ a :: word, IsPlain f a') (text : List α) :
    x :: (a :: word).flatMap f <:+: text.flatMap f ↔
      ∃ c, (f c).getLast? = some x ∧ c :: a :: word <:+: text := by
  induction text with
  | nil => simp
  | cons d text ih =>
    have hstart := flatMap_prefix_iff hne hword text
    rw [List.flatMap_cons, hy, List.singleton_append] at hstart ih ⊢
    rw [List.flatMap_cons, infix_append_iff (hne d) (hinner d), hstart, ih]
    constructor
    · rintro (⟨hlast, hprefix⟩ | ⟨c, hlast, hinside⟩)
      · exact ⟨d, hlast, List.infix_cons_iff.mpr (.inl (List.cons_prefix_cons.mpr ⟨rfl, hprefix⟩))⟩
      · exact ⟨c, hlast, List.infix_cons_iff.mpr (.inr hinside)⟩
    · rintro ⟨c, hlast, hinside⟩
      rcases List.infix_cons_iff.mp hinside with hprefix | hinside
      · obtain ⟨rfl, hrest⟩ := List.cons_prefix_cons.mp hprefix
        exact .inl ⟨hlast, hrest⟩
      · exact .inr ⟨c, hlast, hinside⟩

/-- A word without a certain sign does not go across that sign. -/
lemma prefix_append_cons_iff {x : β} {word : List β} (hx : x ∉ word) (before after : List β) :
    word <+: before ++ x :: after ↔ word <+: before := by
  induction before generalizing word with
  | nil =>
    cases word with
    | nil => simp
    | cons b word =>
      rw [List.mem_cons, not_or] at hx
      simp [Ne.symm hx.1]
  | cons b before ih =>
    cases word with
    | nil => simp
    | cons b' word =>
      rw [List.mem_cons, not_or] at hx
      rw [List.cons_append, List.cons_prefix_cons, List.cons_prefix_cons, ih hx.2]

/-- A word without a certain sign occurs before that sign or behind it. -/
lemma infix_append_cons_iff {x : β} {word : List β} (hx : x ∉ word) (before after : List β) :
    word <:+: before ++ x :: after ↔ word <:+: before ∨ word <:+: after := by
  induction before with
  | nil =>
    have hprefix := prefix_append_cons_iff hx [] after
    rw [List.nil_append] at hprefix ⊢
    rw [List.infix_cons_iff, hprefix, List.prefix_nil, List.infix_nil]
  | cons b before ih =>
    have hprefix := prefix_append_cons_iff hx (b :: before) after
    rw [List.cons_append] at hprefix ⊢
    rw [List.infix_cons_iff, hprefix, ih, List.infix_cons_iff, or_assoc]

end Symbols

namespace FiveTuple

/-! ### From bytes to characters -/

/-- The characters of the marker behind the first one. -/
def markerTail : List Char :=
  ['-', 't', 'u', 'p', 'l', 'e']

/-- A byte of ASCII in the encoding of a character is all of it. -/
lemma eq_of_mem_encode {c : Char} {b : UInt8} (hb : b ∈ String.utf8EncodeChar c) (hascii : b.toNat < 128) :
    c.toNat = b.toNat ∧ String.utf8EncodeChar c = [b] := by
  have hc : b.toNat = c.toNat := (Utf8.byte_of_mem_encode hb).resolve_right (by omega)
  have hone := Utf8.encode_of_lt_128 (c := c) (by omega)
  rw [hone, List.mem_singleton] at hb
  exact ⟨hc.symm, by rw [hone, ← hb]⟩

/-- Characters of ASCII are plain symbols of an encoding. -/
lemma isPlain_encode {c : Char} (h : c.toNat < 128) : IsPlain String.utf8EncodeChar c := by
  refine ⟨_, Utf8.encode_of_lt_128 h, fun d hd => ?_⟩
  have hbyte : (UInt8.ofNat c.toNat).toNat = c.toNat := Utf8.toNat_ofNat (by omega)
  have hmem := List.mem_of_mem_head? (Option.mem_def.mpr hd)
  exact Char.toNat_inj.mp ((eq_of_mem_encode hmem (by omega)).1.trans hbyte)

/-- The bytes of the marker occur in a text if its characters do. -/
lemma isMarked_ofChars (text : List Char) : isMarked (ofChars text) = true ↔ '5' :: markerTail <:+: text := by
  have hinner : ∀ c, (45 : UInt8) ∉ (String.utf8EncodeChar c).tail := by
    intro c hmem
    have hone := (eq_of_mem_encode (List.mem_of_mem_tail hmem) (by decide)).2
    simp [hone] at hmem
  have hplain : ∀ a ∈ markerTail, IsPlain String.utf8EncodeChar a := fun a ha =>
    isPlain_encode ((by simp [markerTail] : ∀ a ∈ markerTail, a.toNat < 128) a ha)
  have hlast : ∀ c, (String.utf8EncodeChar c).getLast? = some 53 ↔ c = '5' := by
    intro c
    constructor
    · intro hc
      exact Char.toNat_inj.mp (eq_of_mem_encode (List.mem_of_getLast? hc) (by decide)).1
    · rintro rfl
      rfl
  have hmarker : marker = 53 :: markerTail.flatMap String.utf8EncodeChar := by decide
  have hhyphen : String.utf8EncodeChar '-' = [45] := by decide
  have hinside := infix_flatMap_iff (f := String.utf8EncodeChar) (x := 53)
    (fun _ => String.utf8EncodeChar_ne_nil) hhyphen hinner hplain text
  rw [isMarked, occurs_iff, hmarker, ofChars]
  refine hinside.trans ?_
  simp only [hlast, exists_eq_left]
  rfl

/-! ### From escapes to the text -/

/-- The characters whose spelling in a JSON string ends in a five: the digit itself, and two control characters
that are written by their code points. -/
def fives : List Char :=
  ['5', '\x05', '\x15']

/-- Somewhere a text goes on like the marker behind a character that is written with a five at its end. -/
def SpellsMarker (text : String) : Prop :=
  ∃ c ∈ fives, c :: markerTail <:+: text.toList

/-- A character that stands for itself in a string is a plain symbol, if it is no backslash. -/
lemma isPlain_escaped {c : Char} (hc : escaped c = [c]) (hslash : c ≠ '\\') : IsPlain escaped c := by
  refine ⟨c, hc, fun d hd => ?_⟩
  rcases escaped_cases d with ⟨-, e, hescaped, -⟩ | ⟨-, hescaped⟩ | ⟨-, -, hescaped⟩
  · simp [hescaped, Ne.symm hslash] at hd
  · simp [hescaped, Ne.symm hslash] at hd
  · simpa [hescaped] using hd

/-- No escape has a hyphen in it. -/
lemma hyphen_not_mem_tail (c : Char) : '-' ∉ (escaped c).tail := by
  have hdigit : ∀ n : Fin 16, '-' ≠ hexDigit n := by decide
  rcases escaped_cases c with ⟨hshort, -⟩ | ⟨hcontrol, hescaped⟩ | ⟨-, -, hescaped⟩
  · simp only [shorts, List.mem_cons, List.not_mem_nil, or_false] at hshort
    rcases hshort with rfl | rfl | rfl | rfl | rfl | rfl | rfl <;> decide
  · have hhigh := hdigit ⟨c.toNat / 16, by omega⟩
    have hlow := hdigit ⟨c.toNat % 16, by omega⟩
    simpa [hescaped] using ⟨hhigh, hlow⟩
  · simp [hescaped]

/-- A character is written with a five at its end if it is one of three. -/
lemma getLast?_escaped_iff (c : Char) : (escaped c).getLast? = some '5' ↔ c ∈ fives := by
  rcases escaped_cases c with ⟨hshort, -⟩ | ⟨hcontrol, hescaped⟩ | ⟨-, hle, hescaped⟩
  · simp only [shorts, List.mem_cons, List.not_mem_nil, or_false] at hshort
    rcases hshort with rfl | rfl | rfl | rfl | rfl | rfl | rfl <;> decide
  · have hdigit : ∀ n : Fin 16, hexDigit n = '5' ↔ n = 5 := by decide
    have hlow := hdigit ⟨c.toNat % 16, by omega⟩
    have hfives : c ∈ fives ↔ c.toNat = 53 ∨ c.toNat = 5 ∨ c.toNat = 21 := by
      simp [fives, ← Char.toNat_inj]
    rw [hfives, hescaped]
    simp only [List.getLast?_cons_cons, List.getLast?_singleton, Option.some.injEq, hlow, Fin.ext_iff]
    constructor <;> intro h <;> omega
  · have hcontrols : c ≠ '\x05' ∧ c ≠ '\x15' := by
      constructor <;> rintro rfl <;> exact absurd hle (by decide)
    simp [hescaped, fives, hcontrols]

/-- The characters of the marker occur in the string that a text is written as if the text spells it. -/
lemma infix_escaped_iff (text : String) :
    '5' :: markerTail <:+: text.toList.flatMap escaped ↔ SpellsMarker text := by
  have hplain : ∀ a ∈ markerTail, IsPlain escaped a := by
    have hself : ∀ a ∈ markerTail, escaped a = [a] ∧ a ≠ '\\' := by simp [markerTail, escaped]
    exact fun a ha => isPlain_escaped (hself a ha).1 (hself a ha).2
  have hne : ∀ c, escaped c ≠ [] := by
    intro c
    rcases escaped_cases c with ⟨-, e, hescaped, -⟩ | ⟨-, hescaped⟩ | ⟨-, -, hescaped⟩ <;> simp [hescaped]
  have hinside := infix_flatMap_iff (x := '5') hne (show escaped '-' = ['-'] from rfl) hyphen_not_mem_tail
    hplain text.toList
  simp only [getLast?_escaped_iff] at hinside
  exact hinside

/-! ### The whole text -/

/-- A text without a hyphen does not spell the marker. -/
lemma not_spellsMarker {text : String} (h : '-' ∉ text.toList) : ¬ SpellsMarker text := by
  rintro ⟨c, -, hinside⟩
  exact h (hinside.subset (by simp [markerTail]))

/-- The marker occurs in the text of a path where one of the two endpoints spells it. -/
lemma isMarked_encode_iff (t : FiveTuple) :
    isMarked t.encode = true ↔ SpellsMarker t.localEnd ∨ SpellsMarker t.remoteEnd := by
  have hquote : '"' ∉ '5' :: markerTail := by decide
  have htext : t.jsonChars = ['\x7b'] ++ '"' :: ("proto".toList.flatMap escaped ++ '"' :: ([':'] ++
      '"' :: (t.protocol.name.toList.flatMap escaped ++ '"' :: ([','] ++
      '"' :: ("local".toList.flatMap escaped ++ '"' :: ([':'] ++
      '"' :: (t.localEnd.toList.flatMap escaped ++ '"' :: ([','] ++
      '"' :: ("remote".toList.flatMap escaped ++ '"' :: ([':'] ++
      '"' :: (t.remoteEnd.toList.flatMap escaped ++ '"' :: ['\x7d']))))))))))) := by
    simp only [jsonChars, member, quoted, List.cons_append, List.append_assoc, List.nil_append]
  -- Between two quotes the marker fits only into the endpoints.
  have hpunctuation : ∀ c : Char, ¬ '5' :: markerTail <:+: [c] := fun c hinside => by
    simpa [markerTail] using hinside.length_le
  have hprotocol : ¬ SpellsMarker t.protocol.name := not_spellsMarker (by cases t.protocol <;> decide)
  have hnames : ¬ SpellsMarker "proto" ∧ ¬ SpellsMarker "local" ∧ ¬ SpellsMarker "remote" :=
    ⟨not_spellsMarker (by decide), not_spellsMarker (by decide), not_spellsMarker (by decide)⟩
  rw [encode, isMarked_ofChars, htext]
  simp only [infix_append_cons_iff hquote, infix_escaped_iff, hpunctuation, hprotocol, hnames, false_or,
    or_false]

/-- The text of a path is taken for an outcome just if an endpoint goes on like the marker behind a five, or
behind one of the two control characters whose escapes end in a five.  Then the outcome is the path itself;
otherwise the text is a message of exactly these bytes. -/
theorem classify_encode (t : FiveTuple) :
    let isMisread := SpellsMarker t.localEnd ∨ SpellsMarker t.remoteEnd
    (isMarked t.encode = true ↔ isMisread) ∧
      (isMisread → Record.classify t.encode = .ok (.result t)) ∧
      (¬ isMisread → Record.classify t.encode = .ok (.signal t.encode)) := by
  intro isMisread
  have hmarked := isMarked_encode_iff t
  refine ⟨hmarked, fun hmisread => ?_, fun hplain => ?_⟩
  · rw [Record.classify, if_pos (hmarked.mpr hmisread), Record.readResult, decode_encode]
    rfl
  · rw [Record.classify, if_neg (hplain ∘ hmarked.mp)]

/-- An escape makes the marker in the text of the first path; in that of the second one, an escape stands in its
way. -/
theorem classify_encode_of_escapes :
    let t : FiveTuple := ⟨.udp, "a\x15-tuple", "b"⟩
    let u : FiveTuple := ⟨.tcp, "5\t-tuple", "\x10-tuple 5-tupl"⟩
    (SpellsMarker t.localEnd ∧ Record.classify t.encode = .ok (.result t)) ∧
      (¬ (SpellsMarker u.localEnd ∨ SpellsMarker u.remoteEnd) ∧
        Record.classify u.encode = .ok (.signal u.encode)) := by
  intro t u
  have ht : SpellsMarker t.localEnd := ⟨'\x15', by decide, ['a'], [], by decide⟩
  have hu : ¬ (SpellsMarker u.localEnd ∨ SpellsMarker u.remoteEnd) := by
    rw [← (classify_encode u).1]
    decide +kernel
  exact ⟨⟨ht, (classify_encode t).2.1 (.inl ht)⟩, hu, (classify_encode u).2.2 hu⟩

end FiveTuple
end Traversal
