import Mathlib
import Traversal.Proofs.TomlNumber
import Traversal.Proofs.TomlText
import Traversal.Toml.Entry

/-!
# Values as they can be written

A `ListText` is a list of strings with fillers around its elements and, if it has elements, with a comma behind
the last one or without; it is read as the list of the texts that its elements stand for (`list_chars`).

A `Literal` is anything that is read as a value wherever a line may end behind it.  Basic strings, lists of them
and decimal integers are literals, and what each of them stands for is known.
-/

namespace Traversal.Toml

open Reader

variable {s : Place}

/-! ### What may follow a value -/

/-- The place is the end of the document or the end of a line. -/
def AtBreak (s : Place) : Prop :=
  s = [] ∨ ∃ (b : Break) (rest : Place), s = b.chars ++ rest

/-- What may stand between a value and the end of its line. -/
structure Trail where
  blanks : Blanks := {}
  comment : Option Comment := none

/-- A trail as it is written. -/
def Trail.chars (t : Trail) : List Char :=
  t.blanks.chars ++ (t.comment.map Comment.text).getD []

/-- The line ends here, behind blanks and a comment at most. -/
def EndsLine (s : Place) : Prop :=
  ∃ (t : Trail) (rest : Place), s = t.chars ++ rest ∧ AtBreak rest

/-- What a line cannot end with does not come at the end of a line. -/
lemma AtBreak.notNext {p : Char → Bool} (h : AtBreak s) (hn : p '\n' = false) (hr : p '\r' = false) :
    NotNext p s := by
  rcases h with rfl | ⟨b, rest, rfl⟩
  · rintro c hc
    cases hc
  · exact b.notNext rest hn hr

/-- The characters that blanks, comments and line breaks begin with. -/
def lineMarks : List Char :=
  [' ', '\t', '#', '\n', '\r']

/-- Blanks do not begin with what no line mark is. -/
lemma Blanks.notNext {p : Char → Bool} (b : Blanks) (hmarks : lineMarks.any p = false) (h : NotNext p s) :
    NotNext p (b.chars ++ s) := by
  cases hb : b.chars with
  | nil => exact h
  | cons c rest =>
    have hc : c = ' ' ∨ c = '\t' := by simpa [isBlank, hb] using b.all c
    exact notNext_cons (eq_false_of_any hmarks (by rcases hc with rfl | rfl <;> decide)) _

/-- What no line mark is does not come at the end of a line. -/
lemma EndsLine.notNext {p : Char → Bool} (h : EndsLine s) (hmarks : lineMarks.any p = false) :
    NotNext p s := by
  obtain ⟨⟨blanks, comment⟩, rest, rfl, hrest⟩ := h
  rw [Trail.chars, List.append_assoc]
  refine blanks.notNext hmarks ?_
  cases comment with
  | none => exact hrest.notNext (eq_false_of_any hmarks (by decide)) (eq_false_of_any hmarks (by decide))
  | some c => exact notNext_cons (eq_false_of_any hmarks (by decide)) _

/-- What no line mark is does not come at the beginning of a filler. -/
lemma Filler.notNext {p : Char → Bool} (f : Filler) (hmarks : lineMarks.any p = false) (h : NotNext p s) :
    NotNext p (f.chars ++ s) := by
  rw [Filler.chars, List.append_assoc]
  refine f.indent.notNext hmarks ?_
  cases f.pauses with
  | nil => exact h
  | cons pause pauses =>
    obtain ⟨c, rest, heq, hc, -⟩ := pause.exists_chars_eq (pauses.flatMap Pause.chars ++ s)
    have hmark : c ∈ lineMarks := by
      simp only [beginsLineRest, Bool.or_eq_true, decide_eq_true_eq] at hc
      rcases hc with (rfl | rfl) | rfl <;> decide
    rw [List.flatMap_cons, List.append_assoc, heq]
    exact notNext_cons (eq_false_of_any hmarks hmark) rest

/-! ### Strings and integers -/

/-- A value is read by its first character at every depth. -/
lemma exists_value_eq (depth : Nat) : ∃ inBrackets inBraces, value depth = valueOf inBrackets inBraces := by
  cases depth with
  | zero => exact ⟨_, _, rfl⟩
  | succ depth => exact ⟨_, _, rfl⟩

/-- A basic string is read as its text. -/
theorem value_quoted (depth : Nat) {pieces : List Piece} (h : pieces = [] → NotNext (· = '"') s) :
    value depth (quoted pieces ++ s) = .ok (.text (textOf pieces), s) := by
  have hread : (do return .text (String.ofList (← string)) : Reader Value) (quoted pieces ++ s) =
      .ok (.text (textOf pieces), s) := bind_of_ok (string_quoted pieces h)
  obtain ⟨inBrackets, inBraces, heq⟩ := exists_value_eq depth
  rw [heq]
  exact hread

/-- A decimal integer begins with a sign or with a digit. -/
lemma exists_chars_cons (d : Decimal) (s : Place) :
    ∃ c rest, d.chars ++ s = c :: rest ∧ (isSign c || c.isDigit) = true := by
  rw [Decimal.chars]
  cases d.sign with
  | none => exact ⟨_, _, rfl, by simp [d.first_digit]⟩
  | plus => exact ⟨_, _, rfl, rfl⟩
  | minus => exact ⟨_, _, rfl, rfl⟩

/-- A decimal integer is read as its number. -/
theorem value_decimal (depth : Nat) {d : Decimal} (hfits : d.Fits) (h : NotNext continuesNumber s) :
    value depth (d.chars ++ s) = .ok (.integer d.value, s) := by
  have hmoment : Balks (do return .moment (← moment) : Reader Value) (d.chars ++ s) := (moment_balks d h).bind
  have hreal : Balks (do return .real (← real) : Reader Value) (d.chars ++ s) := (real_balks d h).bind
  have hread : orElse (do return .moment (← moment))
      (orElse (do return .real (← real)) (do return .integer (← integer))) (d.chars ++ s) =
        .ok (Value.integer d.value, s) := by
    rw [orElse_of_balks hmoment, orElse_of_balks hreal]
    exact bind_of_ok (integer_chars hfits h)
  obtain ⟨c, rest, heq, hc⟩ := exists_chars_cons d s
  have hne : ∀ e : Char, (isSign e || e.isDigit) = false → c ≠ e := by
    rintro e he rfl
    rw [hc] at he
    cases he
  obtain ⟨inBrackets, inBraces, hvalue⟩ := exists_value_eq depth
  rw [hvalue, heq]
  rw [heq] at hread
  simp only [valueOf, hne '"' rfl, hne '\'' rfl, hne '[' rfl, hne '\x7b' rfl, hc, decide_false, Bool.or_self,
    Bool.false_eq_true, if_false, if_true]
  exact hread

/-- A closing bracket is no value. -/
lemma value_bracket_balks (depth : Nat) (s : Place) : Balks (value depth) (']' :: s) := by
  obtain ⟨inBrackets, inBraces, heq⟩ := exists_value_eq depth
  rw [heq]
  exact ⟨_, rfl, rfl⟩

/-! ### Lists of strings -/

/-- An element of a list of strings with what stands around it. -/
structure Element where
  before : Filler := {}
  pieces : List Piece
  behind : Filler := {}

/-- An element as it is written. -/
def Element.chars (e : Element) : List Char :=
  e.before.chars ++ (quoted e.pieces ++ e.behind.chars)

/-- A list of strings. -/
inductive ListText
  | empty (inside : Filler)
  /-- A list that has elements; there may be a comma with a filler behind the last one. -/
  | elements (first : Element) (more : List Element) (trailing : Option Filler)

namespace ListText

/-- What stands between the last element of a list and the closing bracket. -/
def closing (trailing : Option Filler) : List Char :=
  (trailing.map fun f => ',' :: f.chars).getD []

/-- A list of strings as it is written. -/
def chars : ListText → List Char
  | empty inside => '[' :: (inside.chars ++ [']'])
  | elements first more trailing =>
    '[' :: (first.chars ++ (more.flatMap (fun e => ',' :: e.chars) ++ (closing trailing ++ [']'])))

/-- The texts of a list of strings. -/
def texts : ListText → List String
  | empty _ => []
  | elements first more _ => (first :: more).map fun e => textOf e.pieces

end ListText

/-- Reads a comma. -/
def comma : Reader Unit := do
  let _ ← char ','

/-- Reads an element of a list with the fillers around it. -/
def element (value : Reader Value) : Reader (Value × Span) := do
  spaceAndComments
  let element ← spanned value
  spaceAndComments
  return element

/-- What comes behind an element of a list: a comma or the closing bracket. -/
def stops : List Char :=
  [',', ']']

/-- A comma is read. -/
lemma comma_cons (s : Place) : comma (',' :: s) = .ok ((), s) := rfl

/-- An element is read. -/
lemma element_chars (depth : Nat) (e : Element) (h : NextIn stops s) :
    ∃ span, element (value depth) (e.chars ++ s) = .ok ((.text (textOf e.pieces), span), s) := by
  have hquote : NotNext (· = '"') (e.behind.chars ++ s) :=
    e.behind.notNext rfl (h.notNext rfl)
  have hbefore := spaceAndComments_append e.before
    (s := quoted e.pieces ++ (e.behind.chars ++ s)) (notNext_cons rfl _) (notNext_cons rfl _)
  have hvalue : value depth (quoted e.pieces ++ (e.behind.chars ++ s)) =
      .ok (.text (textOf e.pieces), e.behind.chars ++ s) := value_quoted depth fun _ => hquote
  have hbehind := spaceAndComments_append e.behind (h.notNext rfl) (h.notNext rfl)
  rw [Element.chars, List.append_assoc, List.append_assoc, element, bind_of_ok hbefore,
    bind_of_ok (spanned_of_ok hvalue), bind_of_ok hbehind]
  exact ⟨_, rfl⟩

/-- A filler in front of a closing bracket is no element. -/
lemma element_bracket_balks (depth : Nat) (f : Filler) (s : Place) :
    Balks (element (value depth)) (f.chars ++ ']' :: s) :=
  .of_bind (spaceAndComments_append f (notNext_cons rfl s) (notNext_cons rfl s))
    (value_bracket_balks depth s).spanned.bind

/-- A stop comes behind every element of a list, if one comes behind the last element. -/
lemma nextIn_elements (more : List Element) (h : NextIn stops s) :
    NextIn stops (more.flatMap (fun e => ',' :: e.chars) ++ s) := by
  cases more with
  | nil => exact h
  | cons e more => exact ⟨_, _, rfl, by decide⟩

/-- The further elements of a list are read one by one. -/
lemma readsAll_elements (depth : Nat) (more : List Element) (h : NextIn stops s)
    (hend : Balks (do comma; element (value depth)) s) :
    ∃ read, ReadsAll (do comma; element (value depth))
      (more.flatMap (fun e => ',' :: e.chars) ++ s) read s ∧
        read.map (·.1) = more.map fun e => Value.text (textOf e.pieces) := by
  induction more with
  | nil => exact ⟨[], .nil hend, rfl⟩
  | cons e more ih =>
    obtain ⟨read, hread, hvalues⟩ := ih
    obtain ⟨span, helement⟩ := element_chars depth e (nextIn_elements more h)
    refine ⟨(.text (textOf e.pieces), span) :: read, ?_, by rw [List.map_cons, List.map_cons, hvalues]⟩
    rw [List.flatMap_cons, List.append_assoc, List.cons_append]
    refine .cons ((bind_of_ok (f := fun _ => element _) (comma_cons _)).trans helement) ?_ hread
    simp only [List.length_cons, List.length_append]
    omega

/-- A comma that may stand behind the last element is read, with the filler behind it. -/
lemma closing_chars (trailing : Option Filler) (s : Place) : ∃ found rest,
    optional (char ',') (ListText.closing trailing ++ ']' :: s) = .ok (found, rest) ∧
      spaceAndComments rest = .ok ((), ']' :: s) := by
  cases trailing with
  | none =>
    refine ⟨none, _, optional_of_balks (char_balks (notNext_cons rfl s)), ?_⟩
    exact spaceAndComments_append {} (notNext_cons rfl s) (notNext_cons rfl s)
  | some f =>
    refine ⟨_, _, optional_of_ok (char_cons ',' _), ?_⟩
    exact spaceAndComments_append f (notNext_cons rfl s) (notNext_cons rfl s)

/-- A list of strings is read as the list of its texts. -/
theorem list_chars (depth : Nat) (l : ListText) (s : Place) : ∃ read,
    list (value depth) (l.chars ++ s) = .ok (.list read, s) ∧ read.map (·.1) = l.texts.map .text := by
  have hclose := named_of_ok (expecting_of_ok (must_of_ok (char_cons ']' s)) ["`]`"]) "array"
  cases l with
  | empty inside =>
    have hnone : separated (element (value depth)) comma (inside.chars ++ ']' :: s) =
        .ok ([], inside.chars ++ ']' :: s) :=
      separated_of_balks (element_bracket_balks depth inside s)
    have hinside := spaceAndComments_append inside (notNext_cons (c := ']') rfl s) (notNext_cons rfl s)
    refine ⟨[], ?_, rfl⟩
    rw [ListText.chars, List.cons_append, List.append_assoc, List.singleton_append, list,
      bind_of_ok (char_cons '[' _)]
    refine (bind_of_ok (must_of_ok ?_)).trans (bind_of_ok hclose)
    exact (bind_of_ok hnone).trans (bind_of_ok hinside)
  | elements first more trailing =>
    have hstop : NextIn stops (ListText.closing trailing ++ ']' :: s) := by
      cases trailing with
      | none => exact ⟨_, _, rfl, by decide⟩
      | some f => exact ⟨_, _, rfl, by decide⟩
    have hend : Balks (do comma; element (value depth)) (ListText.closing trailing ++ ']' :: s) := by
      cases trailing with
      | none => exact (char_balks (notNext_cons rfl s)).bind.bind
      | some f => exact .of_bind (comma_cons _) (element_bracket_balks depth f s)
    obtain ⟨read, hread, hvalues⟩ := readsAll_elements depth more hstop hend
    obtain ⟨span, hfirst⟩ := element_chars depth first (nextIn_elements more hstop)
    obtain ⟨found, rest, hcomma, hfiller⟩ := closing_chars trailing s
    refine ⟨(.text (textOf first.pieces), span) :: read, ?_, by simp [ListText.texts, hvalues]⟩
    simp only [ListText.chars, List.cons_append, List.append_assoc, List.nil_append]
    rw [list, bind_of_ok (char_cons '[' _)]
    refine (bind_of_ok (must_of_ok ?_)).trans (bind_of_ok hclose)
    refine (bind_of_ok (separated_of_readsAll hfirst hread)).trans ?_
    exact (bind_of_ok hcomma).trans (bind_of_ok hfiller)

/-- A list of strings is read as a value. -/
theorem exists_value_list (depth : Nat) (l : ListText) (s : Place) : ∃ read,
    value (depth + 1) (l.chars ++ s) = .ok (.list read, s) ∧ read.map (·.1) = l.texts.map .text := by
  have hbracket : ∃ rest, l.chars ++ s = '[' :: rest := by cases l <;> exact ⟨_, rfl⟩
  have hlist := list_chars depth l s
  obtain ⟨rest, heq⟩ := hbracket
  rw [heq] at hlist ⊢
  exact hlist

/-! ### Literals -/

/-- Something that is read as a value where a line ends behind it. -/
structure Literal where
  chars : List Char
  isValue : ∀ s, EndsLine s → ∃ v, value (depthLimit - 1) (chars ++ s) = .ok (v, s)

namespace Literal

/-- A literal is read as a value at the end of some line. -/
def Reads (l : Literal) (v : Value) : Prop :=
  ∃ s, EndsLine s ∧ value (depthLimit - 1) (l.chars ++ s) = .ok (v, s)

/-- A basic string as a literal. -/
def ofPieces (pieces : List Piece) : Literal where
  chars := quoted pieces
  isValue _ h := ⟨_, value_quoted _ fun _ => h.notNext rfl⟩

/-- A list of basic strings as a literal. -/
def ofList (l : ListText) : Literal where
  chars := l.chars
  isValue s _ := by
    obtain ⟨read, hread, -⟩ := exists_value_list (depthLimit - 2) l s
    exact ⟨.list read, hread⟩

/-- A decimal integer as a literal. -/
def ofDecimal (d : Decimal) (hfits : d.Fits) : Literal where
  chars := d.chars
  isValue _ h := ⟨_, value_decimal _ hfits (h.notNext rfl)⟩

/-- A basic string is read as nothing but its text. -/
lemma eq_of_reads_ofPieces {pieces : List Piece} {v : Value} (h : (ofPieces pieces).Reads v) :
    v = .text (textOf pieces) := by
  obtain ⟨s, hs, hread⟩ := h
  have hvalue : value (depthLimit - 1) (quoted pieces ++ s) = .ok (.text (textOf pieces), s) :=
    value_quoted _ fun _ => hs.notNext rfl
  have heq := hread.symm.trans hvalue
  rw [Except.ok.injEq, Prod.mk.injEq] at heq
  exact heq.1

/-- A list of basic strings is read as nothing but the list of their texts. -/
lemma eq_of_reads_ofList {l : ListText} {v : Value} (h : (ofList l).Reads v) :
    ∃ read, v = .list read ∧ read.map (·.1) = l.texts.map .text := by
  obtain ⟨s, -, hread⟩ := h
  obtain ⟨read, hlist, hvalues⟩ := exists_value_list (depthLimit - 2) l s
  have heq := hread.symm.trans hlist
  rw [Except.ok.injEq, Prod.mk.injEq] at heq
  exact ⟨read, heq.1, hvalues⟩

/-- A decimal integer is read as nothing but its number. -/
lemma eq_of_reads_ofDecimal {d : Decimal} {hfits : d.Fits} {v : Value} (h : (ofDecimal d hfits).Reads v) :
    v = .integer d.value := by
  obtain ⟨s, hs, hread⟩ := h
  have hvalue : value (depthLimit - 1) (d.chars ++ s) = .ok (.integer d.value, s) :=
    value_decimal _ hfits (hs.notNext rfl)
  have heq := hread.symm.trans hvalue
  rw [Except.ok.injEq, Prod.mk.injEq] at heq
  exact heq.1

end Literal

end Traversal.Toml
