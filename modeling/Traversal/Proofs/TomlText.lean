import Mathlib
import Traversal.Json.Quoted
import Traversal.Proofs.TomlReader
import Traversal.Toml.Text

/-!
# Blanks, comments and basic strings as they can be written

`Blanks`, `Comment`, `Break` and `Filler` are what a document may hold between the things it says; each is read
over as a whole, whatever comes behind it that does not continue it.

A basic string can be spelled in many ways: a `Piece` is a character that stands for itself, a short escape, or
an escape by four or eight hexadecimal digits.  Every spelling is read as the text that it stands for
(`string_quoted`), and every text has a spelling (`textOf_piecesOf`).
-/

namespace Traversal.Toml

open Reader

/-! ### Blanks, comments and line breaks -/

/-- Spaces and tabs. -/
structure Blanks where
  chars : List Char := []
  all : ∀ c ∈ chars, isBlank c = true := by simp [isBlank]

/-- A comment without its mark. -/
structure Comment where
  chars : List Char
  all : ∀ c ∈ chars, isCommentChar c = true

/-- A comment as it is written. -/
def Comment.text (c : Comment) : List Char :=
  '#' :: c.chars

/-- The two kinds of line breaks. -/
inductive Break
  | lineFeed
  | carriageReturn
deriving DecidableEq, Repr

/-- A line break as it is written. -/
def Break.chars : Break → List Char
  | lineFeed => ['\n']
  | carriageReturn => ['\r', '\n']

variable {s : Place}

/-- Blanks are read over. -/
lemma blanks_append (b : Blanks) (h : NotNext isBlank s) : blanks (b.chars ++ s) = .ok ((), s) :=
  bind_of_ok (takeWhile_append b.all h)

/-- A comment is read up to what may not stand in it. -/
lemma comment_append (c : Comment) (h : NotNext isCommentChar s) : comment (c.text ++ s) = .ok ((), s) := by
  rw [comment, Comment.text, List.cons_append, bind_of_ok (char_cons '#' _),
    bind_of_ok (takeWhile_append c.all h)]
  rfl

/-- There may be no comment. -/
lemma comment_balks (h : NotNext (· = '#') s) : Balks comment s :=
  (char_balks h).bind

/-- A line break is read. -/
lemma lineBreak_append (b : Break) (s : Place) : lineBreak (b.chars ++ s) = .ok ((), s) := by
  cases b <;> rfl

/-- What a line break begins with. -/
lemma Break.exists_chars_eq (b : Break) (s : Place) :
    ∃ c rest, b.chars ++ s = c :: rest ∧ (c = '\n' ∨ c = '\r') := by
  cases b with
  | lineFeed => exact ⟨_, _, rfl, .inl rfl⟩
  | carriageReturn => exact ⟨_, _, rfl, .inr rfl⟩

/-- A line break does not continue what cannot be continued by its characters. -/
lemma Break.notNext {p : Char → Bool} (b : Break) (s : Place) (hn : p '\n' = false) (hr : p '\r' = false) :
    NotNext p (b.chars ++ s) := by
  obtain ⟨c, rest, heq, rfl | rfl⟩ := b.exists_chars_eq s
  · exact heq ▸ notNext_cons hn rest
  · exact heq ▸ notNext_cons hr rest

/-! ### What stands between the elements of a list -/

/-- The end of a line, with a comment or without, and the blanks at the beginning of the next line. -/
structure Pause where
  comment : Option Comment := none
  ending : Break := .lineFeed
  indent : Blanks := {}

/-- A pause as it is written. -/
def Pause.chars (p : Pause) : List Char :=
  (p.comment.map Comment.text).getD [] ++ (p.ending.chars ++ p.indent.chars)

/-- Blanks, comments and line breaks. -/
structure Filler where
  indent : Blanks := {}
  pauses : List Pause := []

/-- A filler as it is written. -/
def Filler.chars (f : Filler) : List Char :=
  f.indent.chars ++ f.pauses.flatMap Pause.chars

/-- A comment that may be there is read over in front of a line break. -/
lemma optional_comment_append (comment? : Option Comment) (h : NotNext isCommentChar s)
    (h' : NotNext (· = '#') s) : ∃ found,
      optional comment ((comment?.map Comment.text).getD [] ++ s) = .ok (found, s) := by
  cases comment? with
  | none => exact ⟨_, optional_of_balks (comment_balks h')⟩
  | some c => exact ⟨_, optional_of_ok (comment_append c h)⟩

/-- A pause begins with a comment or with a line break. -/
lemma Pause.exists_chars_eq (p : Pause) (s : Place) :
    ∃ c rest, p.chars ++ s = c :: rest ∧ beginsLineRest c = true ∧ isBlank c = false := by
  obtain ⟨comment?, ending, indent⟩ := p
  cases comment? with
  | none => cases ending <;> exact ⟨_, _, rfl, rfl, rfl⟩
  | some c => exact ⟨_, _, rfl, rfl, rfl⟩

/-- Pauses are read over one by one. -/
lemma readsEach_pauses (pauses : List Pause) (h : NotNext isBlank s) (h' : NotNext beginsLineRest s) :
    ReadsEach beginsLineRest (do let _ ← optional comment; lineBreak; blanks)
      (pauses.flatMap Pause.chars ++ s) s := by
  induction pauses with
  | nil => exact .nil h'
  | cons p pauses ih =>
    obtain ⟨c, rest, heq, hc, -⟩ := p.exists_chars_eq (pauses.flatMap Pause.chars ++ s)
    have hnext : NotNext isBlank (pauses.flatMap Pause.chars ++ s) := by
      cases pauses with
      | nil => exact h
      | cons p' pauses =>
        obtain ⟨c, rest, heq, -, hc⟩ := p'.exists_chars_eq (pauses.flatMap Pause.chars ++ s)
        rw [List.flatMap_cons, List.append_assoc, heq]
        exact notNext_cons hc rest
    have hread : (do let _ ← optional comment; lineBreak; blanks : Reader Unit)
        (p.chars ++ (pauses.flatMap Pause.chars ++ s)) = .ok ((), pauses.flatMap Pause.chars ++ s) := by
      have hending := p.ending.notNext (p.indent.chars ++ (pauses.flatMap Pause.chars ++ s))
        (p := isCommentChar) rfl rfl
      have hmark := p.ending.notNext (p.indent.chars ++ (pauses.flatMap Pause.chars ++ s))
        (p := (· = '#')) rfl rfl
      obtain ⟨found, hcomment⟩ := optional_comment_append p.comment hending hmark
      rw [Pause.chars, List.append_assoc, List.append_assoc, bind_of_ok hcomment,
        bind_of_ok (lineBreak_append _ _), blanks_append _ hnext]
    rw [List.flatMap_cons, List.append_assoc]
    rw [heq] at hread ⊢
    refine .cons hc hread ?_ ih
    rw [← heq, Pause.chars]
    obtain ⟨c, rest, hbreak, -⟩ := p.ending.exists_chars_eq []
    rw [List.append_nil] at hbreak
    simp only [hbreak, List.length_append, List.length_cons]
    omega

/-- A filler is read over. -/
theorem spaceAndComments_append (f : Filler) (h : NotNext isBlank s) (h' : NotNext beginsLineRest s) :
    spaceAndComments (f.chars ++ s) = .ok ((), s) := by
  have hpauses := readsEach_pauses f.pauses h h'
  have hnext : NotNext isBlank (f.pauses.flatMap Pause.chars ++ s) := by
    cases hp : f.pauses with
    | nil => exact h
    | cons p pauses =>
      obtain ⟨c, rest, heq, -, hc⟩ := p.exists_chars_eq (pauses.flatMap Pause.chars ++ s)
      rw [List.flatMap_cons, List.append_assoc, heq]
      exact notNext_cons hc rest
  rw [spaceAndComments, Filler.chars, List.append_assoc, bind_of_ok (blanks_append _ hnext)]
  exact eachFrom_of_readsEach hpauses

/-! ### Spellings of strings -/

/-- The characters that have an escape of a single letter. -/
inductive ShortEscape
  | backspace | formFeed | lineFeed | carriageReturn | tab | backslash | quote
deriving DecidableEq, Repr

/-- What follows the backslash of a short escape. -/
def ShortEscape.letter : ShortEscape → Char
  | backspace => 'b'
  | formFeed => 'f'
  | lineFeed => 'n'
  | carriageReturn => 'r'
  | tab => 't'
  | backslash => '\\'
  | quote => '"'

/-- What a short escape stands for. -/
def ShortEscape.char : ShortEscape → Char
  | backspace => '\x08'
  | formFeed => '\x0c'
  | lineFeed => '\n'
  | carriageReturn => '\r'
  | tab => '\t'
  | backslash => '\\'
  | quote => '"'

/-- The lengths of an escape by code point. -/
inductive CodeLength
  | four
  | eight
deriving DecidableEq, Repr

/-- What follows the backslash of an escape by code point. -/
def CodeLength.letter : CodeLength → Char
  | four => 'u'
  | eight => 'U'

/-- The number of digits of an escape by code point. -/
def CodeLength.digits : CodeLength → Nat
  | four => 4
  | eight => 8

/-- A part of a basic string between its quotes. -/
inductive Piece
  /-- A character that stands for itself. -/
  | plain (c : Char) (hc : isBasicChar c = true)
  | short (escape : ShortEscape)
  /-- The code point of a character. -/
  | code (length : CodeLength) (digits : List Char) (hlength : digits.length = length.digits)
    (hdigits : ∀ d ∈ digits, isHexDigit d = true) (hvalid : (number 16 digits).isValidChar)

namespace Piece

/-- A part of a string as it is written. -/
def chars : Piece → List Char
  | plain c _ => [c]
  | short e => ['\\', e.letter]
  | code length digits _ _ _ => '\\' :: length.letter :: digits

/-- The character that a part of a string stands for. -/
def char : Piece → Char
  | plain c _ => c
  | short e => e.char
  | code _ digits _ _ _ => Char.ofNat (number 16 digits)

/-- Whether a part of a string is no escape. -/
def isPlain : Piece → Bool
  | plain _ _ => true
  | _ => false

end Piece

/-- The characters of a string between its quotes. -/
def body (pieces : List Piece) : List Char :=
  pieces.flatMap Piece.chars

/-- A string begins with its first part. -/
lemma body_cons (p : Piece) (pieces : List Piece) : body (p :: pieces) = p.chars ++ body pieces :=
  List.flatMap_cons

/-- A string falls into two where its parts do. -/
lemma body_append (pieces pieces' : List Piece) : body (pieces ++ pieces') = body pieces ++ body pieces' :=
  List.flatMap_append

/-- A basic string as it is written. -/
def quoted (pieces : List Piece) : List Char :=
  '"' :: (body pieces ++ ['"'])

/-- What a spelling stands for. -/
def textOf (pieces : List Piece) : String :=
  String.ofList (pieces.map Piece.char)

/-! ### Reading a string back -/

/-- A part of a string that is no escape stands for itself. -/
lemma chars_of_isPlain {p : Piece} (h : p.isPlain = true) : p.chars = [p.char] ∧ isBasicChar p.char = true := by
  cases p with
  | plain c hc => exact ⟨rfl, hc⟩
  | short => cases h
  | code => cases h

/-- An escape is read as the character that it stands for. -/
lemma escape_chars {p : Piece} (h : p.isPlain = false) (s : Place) :
    escape (p.chars ++ s) = .ok (p.char, s) := by
  cases p with
  | plain => cases h
  | short e => cases e <;> rfl
  | code length digits hlength hdigits hvalid =>
    have hcode : codePoint length.digits (digits ++ s) = .ok (Char.ofNat (number 16 digits), s) :=
      checked_of_ok (hlength ▸ takeExactly_append hdigits s) (by simp only [if_pos hvalid])
    have hread := named_of_ok (must_of_ok hcode)
    rw [Piece.chars, List.cons_append, List.cons_append, escape, bind_of_ok (char_cons '\\' _)]
    cases length with
    | four => exact (bind_of_ok (satisfy_cons rfl _)).trans (hread _)
    | eight => exact (bind_of_ok (satisfy_cons rfl _)).trans (hread _)

/-- An escape begins with a backslash. -/
lemma exists_chars_of_not_isPlain {p : Piece} (h : p.isPlain = false) : ∃ rest, p.chars = '\\' :: rest := by
  cases p with
  | plain => cases h
  | short => exact ⟨_, rfl⟩
  | code => exact ⟨_, rfl⟩

/-- Parts of a string that are no escapes are read together. -/
lemma basicChars_run {pieces : List Piece} (hne : pieces ≠ []) (hall : ∀ p ∈ pieces, p.isPlain = true)
    (h : NotNext isBasicChar s) : basicChars (body pieces ++ s) = .ok (pieces.map Piece.char, s) := by
  have hbody : body pieces = pieces.map Piece.char := by
    rw [body, List.map_eq_flatMap]
    exact List.flatMap_congr fun p hp => (chars_of_isPlain (hall p hp)).1
  have hchars : ∀ c ∈ pieces.map Piece.char, isBasicChar c = true := by
    intro c hc
    obtain ⟨p, hp, rfl⟩ := List.mem_map.mp hc
    exact (chars_of_isPlain (hall p hp)).2
  rw [hbody, basicChars]
  exact orElse_of_ok (takeWhile1_append (by simpa using hne) hchars h)

/-- An escape is read by itself. -/
lemma basicChars_escape {p : Piece} (h : p.isPlain = false) (s : Place) :
    basicChars (p.chars ++ s) = .ok ([p.char], s) := by
  have hbalks : Balks (takeWhile1 isBasicChar) (p.chars ++ s) := by
    obtain ⟨rest, hchars⟩ := exists_chars_of_not_isPlain h
    rw [hchars]
    exact takeWhile1_balks (notNext_cons rfl _)
  rw [basicChars, orElse_of_balks hbalks, bind_of_ok (escape_chars h s)]
  rfl

/-- Some parts of a string are read at once: an escape, or all characters up to the next escape. -/
lemma exists_basicChars (p : Piece) (pieces : List Piece) (s : Place) : ∃ run more,
    p :: pieces = run ++ more ∧ run ≠ [] ∧
      basicChars (body (p :: pieces) ++ '"' :: s) = .ok (run.map Piece.char, body more ++ '"' :: s) := by
  cases hp : p.isPlain with
  | false =>
    refine ⟨[p], pieces, rfl, List.cons_ne_nil _ _, ?_⟩
    rw [body_cons, List.append_assoc]
    exact basicChars_escape hp _
  | true =>
    let run := (p :: pieces).takeWhile Piece.isPlain
    let more := (p :: pieces).dropWhile Piece.isPlain
    have hsplit : p :: pieces = run ++ more := List.takeWhile_append_dropWhile.symm
    have hne : run ≠ [] := by
      rw [show run = p :: pieces.takeWhile Piece.isPlain from List.takeWhile_cons_of_pos hp]
      exact List.cons_ne_nil _ _
    have hend : NotNext isBasicChar (body more ++ '"' :: s) := by
      cases hm : more with
      | nil => exact notNext_cons rfl s
      | cons p' more' =>
        have hp' : p'.isPlain = false := by
          have hhead := List.head?_dropWhile_not Piece.isPlain (p :: pieces)
          simpa [show (p :: pieces).dropWhile Piece.isPlain = p' :: more' from hm] using hhead
        obtain ⟨rest, hchars⟩ := exists_chars_of_not_isPlain hp'
        rw [body_cons, hchars]
        exact notNext_cons rfl _
    refine ⟨run, more, hsplit, hne, ?_⟩
    rw [hsplit, body_append, List.append_assoc]
    exact basicChars_run hne (fun p hp => List.mem_takeWhile_imp hp) hend

/-- Every part of a string is written with some character. -/
lemma length_body_pos {pieces : List Piece} (h : pieces ≠ []) : 0 < (body pieces).length := by
  obtain ⟨p, more, rfl⟩ := List.exists_cons_of_ne_nil h
  rw [body_cons, List.length_append]
  cases p <;> simp only [Piece.chars, List.length_cons] <;> omega

/-- Characters of a string are read up to its closing quote. -/
lemma readsAll_body (pieces : List Piece) (s : Place) :
    ∃ parts, ReadsAll basicChars (body pieces ++ '"' :: s) parts ('"' :: s) ∧
      parts.flatten = pieces.map Piece.char := by
  induction hn : pieces.length using Nat.strong_induction_on generalizing pieces with
  | _ n ih =>
    subst hn
    cases pieces with
    | nil =>
      have hquote : NotNext isBasicChar ('"' :: s) := notNext_cons rfl s
      have hescape : Balks escape ('"' :: s) := (char_balks (notNext_cons rfl s)).bind
      exact ⟨[], .nil ((takeWhile1_balks hquote).orElse hescape.bind), rfl⟩
    | cons p pieces =>
      obtain ⟨run, more, hsplit, hne, hread⟩ := exists_basicChars p pieces s
      have hshort : more.length < (p :: pieces).length := by
        have hpos := List.length_pos_iff.mpr hne
        rw [hsplit, List.length_append]
        omega
      obtain ⟨parts, hparts, hflatten⟩ := ih more.length hshort more rfl
      refine ⟨run.map Piece.char :: parts, .cons hread ?_ hparts, ?_⟩
      · have hpos := length_body_pos hne
        rw [hsplit, body_append]
        simp only [List.length_append]
        omega
      · rw [List.flatten_cons, hflatten, ← List.map_append, ← hsplit]

/-- A basic string is read as what it stands for. -/
theorem basicString_quoted (pieces : List Piece) (s : Place) :
    basicString (quoted pieces ++ s) = .ok (pieces.map Piece.char, s) := by
  obtain ⟨parts, hparts, hflatten⟩ := readsAll_body pieces s
  have hclose := named_of_ok (must_of_ok (char_cons '"' s)) "basic string"
  rw [quoted, List.cons_append, List.append_assoc, List.singleton_append, basicString,
    bind_of_ok (char_cons '"' _), bind_of_ok (many_of_readsAll hparts), bind_of_ok hclose, hflatten]
  rfl

/-- A basic string is no beginning of one between three quotes, unless it is empty and a quote follows. -/
lemma fence_isPrefixOf_quoted {pieces : List Piece} (h : pieces = [] → NotNext (· = '"') s) :
    (fence '"').isPrefixOf (quoted pieces ++ s) = false := by
  cases pieces with
  | nil =>
    cases s with
    | nil => rfl
    | cons c s =>
      have hc : c ≠ '"' := by simpa using h rfl c rfl
      simp [fence, quoted, body, List.isPrefixOf, Ne.symm hc]
  | cons p pieces =>
    have hfirst : ∃ c rest, p.chars = c :: rest ∧ c ≠ '"' := by
      cases hp : p.isPlain with
      | false =>
        obtain ⟨rest, hchars⟩ := exists_chars_of_not_isPlain hp
        exact ⟨'\\', rest, hchars, by decide⟩
      | true =>
        obtain ⟨hchars, hbasic⟩ := chars_of_isPlain hp
        refine ⟨p.char, [], hchars, ?_⟩
        intro hq
        simp [hq, isBasicChar] at hbasic
    obtain ⟨c, rest, hchars, hc⟩ := hfirst
    simp [fence, quoted, body, hchars, List.isPrefixOf, Ne.symm hc]

/-- A basic string is read where a string of any kind may stand. -/
theorem string_quoted (pieces : List Piece) (h : pieces = [] → NotNext (· = '"') s) :
    string (quoted pieces ++ s) = .ok (pieces.map Piece.char, s) := by
  have hlong : Balks (longString '"' longBasicBody "multiline basic string") (quoted pieces ++ s) :=
    ((literal_balks (fence_isPrefixOf_quoted h)).bind).named _
  rw [string, orElse_of_balks hlong]
  exact orElse_of_ok (basicString_quoted pieces s)

/-! ### Every text has a spelling -/

/-- The facts about hexadecimal digits that a spelling needs. -/
lemma hexDigit_spec (n : Fin 16) :
    isHexDigit (Json.hexDigit n) = true ∧ hexValue (Json.hexDigit n) = n := by
  revert n
  decide

/-- A character that does not stand for itself in a string and has no short escape of its own is one of the
first 128. -/
lemma lt_of_not_isBasicChar {c : Char} (hbasic : ¬ isBasicChar c = true) (hquote : c ≠ '"')
    (hslash : c ≠ '\\') : c.toNat < 128 := by
  by_contra h
  have hne : c.toNat ≠ 127 := by omega
  exact hbasic (by simp [isBasicChar, isCommentChar, hquote, hslash, hne, show 32 ≤ c.toNat by omega])

/-- The number that four digits stand for, the first two of which are zeros. -/
lemma number_code {n : Nat} (h : n < 256) :
    number 16 ['0', '0', Json.hexDigit (n / 16), Json.hexDigit (n % 16)] = n := by
  have hhigh := (hexDigit_spec ⟨n / 16, by omega⟩).2
  have hlow := (hexDigit_spec ⟨n % 16, by omega⟩).2
  have hzero : hexValue '0' = 0 := rfl
  simp only [number, List.foldl_cons, List.foldl_nil, hzero, hhigh, hlow]
  omega

/-- A character as it may stand in a string: as itself if it may, otherwise as an escape. -/
def Piece.ofChar (c : Char) : Piece :=
  if hbasic : isBasicChar c = true then .plain c hbasic
  else if hquote : c = '"' then .short .quote
  else if hslash : c = '\\' then .short .backslash
  else
    have h := lt_of_not_isBasicChar hbasic hquote hslash
    .code .four ['0', '0', Json.hexDigit (c.toNat / 16), Json.hexDigit (c.toNat % 16)] rfl
      (by
        have hhigh := (hexDigit_spec ⟨c.toNat / 16, by omega⟩).1
        have hlow := (hexDigit_spec ⟨c.toNat % 16, by omega⟩).1
        simp [hhigh, hlow]
        decide)
      (by rw [number_code (by omega)]; exact c.valid)

/-- The piece of a character stands for the character. -/
lemma Piece.char_ofChar (c : Char) : (Piece.ofChar c).char = c := by
  unfold Piece.ofChar
  split
  · rfl
  split
  · next hquote => exact hquote.symm
  split
  · next hslash => exact hslash.symm
  · next hbasic hquote hslash =>
    have h := lt_of_not_isBasicChar hbasic hquote hslash
    change Char.ofNat (number 16 _) = c
    rw [number_code (by omega), Char.ofNat_toNat]

/-- A spelling of a text. -/
def piecesOf (text : String) : List Piece :=
  text.toList.map Piece.ofChar

/-- Every text is what some spelling stands for. -/
theorem textOf_piecesOf (text : String) : textOf (piecesOf text) = text := by
  rw [textOf, piecesOf, List.map_map]
  simp [Function.comp_def, Piece.char_ofChar]

end Traversal.Toml
