import Mathlib
import Traversal.Json.Quoted
import Traversal.Proofs.TomlReader
import Traversal.Toml.Moment

/-!
# Decimal integers as they can be written

A `Decimal` is an integer with or without a sign, without leading zeros, and with underscores between its digits
at will.  Before a reader of values takes it for an integer it tries a moment and a floating-point number; both
balk at what a decimal is and at what may follow it (`moment_balks`, `real_balks`).  So it is read as the number
that it stands for (`integer_chars`).  Every natural number has such a form (`exists_decimal`).
-/

namespace Traversal.Toml

open Reader

/-! ### Decimals -/

/-- The sign of a decimal. -/
inductive Sign
  | none
  | plus
  | minus
deriving DecidableEq, Repr

/-- A sign as it is written. -/
def Sign.chars : Sign → List Char
  | none => []
  | plus => ['+']
  | minus => ['-']

/-- A decimal integer: a sign, the first digit, and the further ones, each with an underscore before it or
without. -/
structure Decimal where
  sign : Sign := .none
  first : Char
  more : List (Bool × Char) := []
  first_digit : first.isDigit = true
  more_digits : ∀ d ∈ more, d.2.isDigit = true
  no_leading_zero : first = '0' → more = []

namespace Decimal

variable (d : Decimal)

/-- The further digits as they are written. -/
def tail : List Char :=
  d.more.flatMap fun e => if e.1 then ['_', e.2] else [e.2]

/-- A decimal as it is written. -/
def chars : List Char :=
  d.sign.chars ++ d.first :: d.tail

/-- The digits alone. -/
def digits : List Char :=
  d.first :: d.more.map (·.2)

/-- The number that a decimal stands for. -/
def value : Int :=
  if d.sign = .minus then -(number 10 d.digits : Int) else number 10 d.digits

/-- A decimal that 64 bits hold. -/
def Fits : Prop :=
  -(2 ^ 63) ≤ d.value ∧ d.value < 2 ^ 63

end Decimal

/-- A character that would continue a decimal, or make it part of something else. -/
def continuesNumber (c : Char) : Bool :=
  c.isDigit || c = '_' || c = '-' || c = ':' || c = '.' || c = 'e' || c = 'E' || c = 'x' || c = 'o' || c = 'b'

variable {d : Decimal} {s : Place}

/-- A decimal goes on with digits and underscores. -/
lemma Decimal.mem_tail {c : Char} (h : c ∈ d.first :: d.tail) : c.isDigit = true ∨ c = '_' := by
  rcases List.mem_cons.mp h with rfl | h
  · exact .inl d.first_digit
  · obtain ⟨⟨underscore, digit⟩, hmem, hc⟩ := List.mem_flatMap.mp h
    have hdigit : digit.isDigit = true := d.more_digits _ hmem
    cases underscore with
    | false =>
      obtain rfl : c = digit := by simpa using hc
      exact .inl hdigit
    | true =>
      rcases (by simpa using hc : c = '_' ∨ c = digit) with rfl | rfl
      · exact .inr rfl
      · exact .inl hdigit

/-! ### Digits -/

/-- A digit is none of the characters that continue a number otherwise. -/
lemma ne_of_isDigit {c e : Char} (h : c.isDigit = true) (he : e.isDigit = false) : c ≠ e := by
  rintro rfl
  rw [h] at he
  cases he

/-- A digit is a leading digit or zero. -/
lemma isLeadingDigit_iff {c : Char} (h : c.isDigit = true) : isLeadingDigit c = true ↔ c ≠ '0' := by
  have hrange : 48 ≤ c.toNat ∧ c.toNat ≤ 57 := by
    simpa [Char.isDigit, UInt32.le_iff_toNat_le] using h
  have hzero : c ≠ '0' ↔ c.toNat ≠ 48 := by
    rw [ne_eq, ne_eq, ← Char.toNat_inj]
    rfl
  have hleading : isLeadingDigit c = true ↔ 49 ≤ c.toNat ∧ c.toNat ≤ 57 := by
    simp [isLeadingDigit, Char.le_def, UInt32.le_iff_toNat_le]
  rw [hzero, hleading]
  omega

/-- The further digits are read up to what does not continue them. -/
lemma readsAll_tail {more : List (Bool × Char)} (hdigits : ∀ e ∈ more, e.2.isDigit = true)
    (h : NotNext (fun c => c.isDigit || c = '_') s) :
    ReadsAll (moreDigit Char.isDigit)
      (more.flatMap (fun e => if e.1 then ['_', e.2] else [e.2]) ++ s) (more.map (·.2)) s := by
  induction more with
  | nil =>
    refine .nil ((satisfy_balks (h.mono ?_)).orElse (Balks.bind (char_balks (h.mono ?_)))) <;>
      simp +contextual
  | cons e more ih =>
    obtain ⟨underscore, digit⟩ := e
    have hdigit : digit.isDigit = true := hdigits _ List.mem_cons_self
    have hrest := ih fun e he => hdigits e (List.mem_cons_of_mem _ he)
    rw [List.flatMap_cons, List.append_assoc, List.map_cons]
    generalize more.flatMap (fun e => if e.1 then ['_', e.2] else [e.2]) ++ s = rest at hrest ⊢
    cases underscore with
    | false => exact .cons (orElse_of_ok (satisfy_cons hdigit rest)) (by simp) hrest
    | true =>
      have hread := expecting_of_ok (must_of_ok (satisfy_cons hdigit rest)) ["digit"]
      have hbalks : Balks (satisfy Char.isDigit) ('_' :: digit :: rest) := satisfy_balks (notNext_cons rfl _)
      have hmore : moreDigit Char.isDigit ('_' :: digit :: rest) = .ok (digit, rest) := by
        rw [moreDigit, orElse_of_balks hbalks, bind_of_ok (char_cons '_' _), hread]
      exact .cons hmore (by simp) hrest

/-- A sign that may be there is read. -/
lemma optional_sign (d : Decimal) (s : Place) : ∃ sign,
    optional (satisfy isSign) (d.chars ++ s) = .ok (sign, d.first :: (d.tail ++ s)) ∧
      decide (sign = some '-') = decide (d.sign = .minus) := by
  rw [Decimal.chars]
  cases d.sign with
  | none =>
    have hsign : isSign d.first = false := by
      simp [isSign, ne_of_isDigit d.first_digit (show '+'.isDigit = false from rfl),
        ne_of_isDigit d.first_digit (show '-'.isDigit = false from rfl)]
    exact ⟨_, optional_of_balks (satisfy_balks (notNext_cons hsign _)), rfl⟩
  | plus => exact ⟨_, optional_of_ok (satisfy_cons rfl _), rfl⟩
  | minus => exact ⟨_, optional_of_ok (satisfy_cons rfl _), rfl⟩

/-- The digits of a decimal are read. -/
lemma decimal_chars (d : Decimal) (h : NotNext (fun c => c.isDigit || c = '_') s) :
    decimal (d.chars ++ s) = .ok ((decide (d.sign = .minus), d.digits), s) := by
  obtain ⟨sign, hread, hsign⟩ := optional_sign d s
  have hdigits : orElse
      (do let d ← satisfy isLeadingDigit; let more ← many (moreDigit Char.isDigit); return d :: more)
      (do return [← satisfy Char.isDigit]) (d.first :: (d.tail ++ s)) = .ok (d.digits, s) := by
    by_cases hzero : d.first = '0'
    · have hmore : d.more = [] := d.no_leading_zero hzero
      have hbalks : Balks (satisfy isLeadingDigit) ('0' :: s) := satisfy_balks (notNext_cons rfl s)
      rw [Decimal.digits, Decimal.tail, hmore, hzero]
      exact orElse_of_balks hbalks.bind
    · have hleading := (isLeadingDigit_iff d.first_digit).mpr hzero
      refine orElse_of_ok ?_
      rw [bind_of_ok (satisfy_cons hleading _), Decimal.tail,
        bind_of_ok (many_of_readsAll (readsAll_tail d.more_digits h))]
      rfl
  refine named_of_ok ?_ _
  rw [bind_of_ok hread, bind_of_ok hdigits, ← hsign]
  rfl

/-! ### What a decimal is not -/

/-- Behind digits at the beginning of a decimal there is neither a hyphen nor a colon. -/
lemma notNext_of_digits {chars rest : List Char} (d : Decimal) (h : NotNext continuesNumber s)
    (heq : d.chars ++ s = chars ++ rest) (hne : chars ≠ []) (hdigits : ∀ c ∈ chars, c.isDigit = true) :
    NotNext (fun c => c = '-' || c = ':') rest := by
  have hsign : d.sign = .none := by
    cases hsign : d.sign with
    | none => rfl
    | plus | minus =>
      -- The first of the digits would be the sign.
      obtain ⟨c, more, rfl⟩ := List.exists_cons_of_ne_nil hne
      rw [Decimal.chars, hsign] at heq
      have hc := hdigits c List.mem_cons_self
      rw [← (List.cons.inj heq).1] at hc
      cases hc
  rw [Decimal.chars, hsign, Sign.chars, List.nil_append] at heq
  rcases List.append_eq_append_iff.mp heq with ⟨more, rfl, rfl⟩ | ⟨more, hmore, rfl⟩
  · cases more with
    | nil => exact h.mono fun c hc => by simp [continuesNumber] at hc ⊢; tauto
    | cons c more =>
      -- A digit of what follows the decimal would continue it.
      have hc : c.isDigit = true := hdigits c (by simp)
      have hnot := h c rfl
      simp [continuesNumber, hc] at hnot
  · cases more with
    | nil => exact h.mono fun c hc => by simp [continuesNumber] at hc ⊢; tauto
    | cons c more =>
      refine notNext_cons ?_ _
      rcases Decimal.mem_tail (hmore ▸ (by simp) : c ∈ d.first :: d.tail) with hc | rfl
      · simp [ne_of_isDigit hc (show '-'.isDigit = false from rfl),
          ne_of_isDigit hc (show ':'.isDigit = false from rfl)]
      · rfl

/-- A decimal is no moment. -/
lemma moment_balks (d : Decimal) (h : NotNext continuesNumber s) : Balks moment (d.chars ++ s) := by
  have hdate : Balks date (d.chars ++ s) := by
    rcases takeExactly_cases 4 Char.isDigit (d.chars ++ s) with hbalks | ⟨chars, rest, heq, hlen, hall, hread⟩
    · exact hbalks.bind
    · have hnext := notNext_of_digits d h heq (by rintro rfl; cases hlen) hall
      exact .of_bind hread (char_balks (hnext.mono (by simp +contextual))).bind
  have htime : Balks time (d.chars ++ s) := by
    rcases takeExactly_cases 2 Char.isDigit (d.chars ++ s) with hbalks | ⟨chars, rest, heq, hlen, hall, hread⟩
    · exact (hbalks.checked _).bind
    · have hnext := notNext_of_digits d h heq (by rintro rfl; cases hlen) hall
      by_cases hrange : (0 ≤ number 10 chars && number 10 chars ≤ 23) = true
      · have hhour : twoDigits 0 23 (d.chars ++ s) = .ok (number 10 chars, rest) :=
          checked_of_ok hread (if_pos hrange)
        exact .of_bind hhour (char_balks (hnext.mono (by simp +contextual))).bind
      · exact Balks.bind (checked_of_objection hread (if_neg hrange))
  have hdateTime : Balks dateAndTime (d.chars ++ s) := hdate.bind.named _
  obtain ⟨refusal, heq, hfinal⟩ := hdateTime.orElse (htime.named "time")
  exact ⟨refusal, by simp only [moment, heq], hfinal⟩

/-- A decimal is no floating-point number. -/
lemma real_balks (d : Decimal) (h : NotNext continuesNumber s) : Balks real (d.chars ++ s) := by
  have hdigits : NotNext (fun c => c.isDigit || c = '_') s :=
    h.mono fun c hc => by simp [continuesNumber] at hc ⊢; tauto
  have hexponent : Balks exponent s :=
    (satisfy_balks (h.mono fun c hc => by simp [continuesNumber] at hc ⊢; tauto)).bind
  have hfraction : Balks fraction s :=
    (char_balks (h.mono fun c hc => by simp [continuesNumber] at hc ⊢; tauto)).bind
  have hinDigits : Balks realDigits (d.chars ++ s) :=
    .of_bind (decimal_chars d hdigits) (hexponent.bind.orElse hfraction.bind)
  have hword : Balks realWord (d.chars ++ s) := by
    obtain ⟨sign, hread, -⟩ := optional_sign d s
    have hletter : ∀ c : Char, c.isDigit = false → ∀ word,
        Balks (literal (c :: word)) (d.first :: (d.tail ++ s)) :=
      fun c hc word => literal_balks (by
        simp [List.isPrefixOf, Ne.symm (ne_of_isDigit d.first_digit hc)])
    exact .of_bind hread ((hletter 'i' rfl _).bind.orElse (hletter 'n' rfl _).bind)
  refine Balks.named ?_ _
  obtain ⟨refusal, heq, hfinal⟩ := hinDigits
  exact Balks.orElse ⟨refusal, by simp only [heq], hfinal⟩ hword

/-! ### Reading a decimal back -/

/-- A decimal has no marker of another base. -/
lemma chars_append_ne (d : Decimal) (h : NotNext continuesNumber s) {c : Char}
    (hc : c = 'x' ∨ c = 'o' ∨ c = 'b') (rest : Place) : d.chars ++ s ≠ '0' :: c :: rest := by
  intro heq
  rw [Decimal.chars] at heq
  cases hsign : d.sign with
  | none =>
    rw [hsign, Sign.chars, List.nil_append, List.cons_append, List.cons.injEq] at heq
    rw [Decimal.tail, d.no_leading_zero heq.1, List.flatMap_nil, List.nil_append] at heq
    have hnot := h c (by simp [heq.2])
    rcases hc with rfl | rfl | rfl <;> cases hnot
  | plus | minus =>
    rw [hsign] at heq
    have hfirst := (List.cons.inj heq).1
    revert hfirst
    decide

/-- A decimal is read as the number that it stands for. -/
theorem integer_chars {d : Decimal} (hfits : d.Fits) (h : NotNext continuesNumber s) :
    integer (d.chars ++ s) = .ok (d.value, s) := by
  have hdigits : NotNext (fun c => c.isDigit || c = '_') s :=
    h.mono fun c hc => by simp [continuesNumber] at hc ⊢; tauto
  have hfit : fit (decide (d.sign = .minus)) (number 10 d.digits) = .ok d.value := by
    have hpow : Nat.pow 2 63 = 2 ^ 63 := rfl
    obtain ⟨hlow, hhigh⟩ := hfits
    by_cases hsign : d.sign = .minus
    · rw [Decimal.value, if_pos hsign] at hlow hhigh ⊢
      rw [fit, if_pos (by simpa using hsign), if_pos (by rw [hpow]; omega)]
    · rw [Decimal.value, if_neg hsign] at hlow hhigh ⊢
      rw [fit, if_neg (by simpa using hsign), if_pos (by rw [hpow]; omega)]
  unfold integer
  split
  · next rest heq => exact absurd heq (chars_append_ne d h (.inl rfl) rest)
  · next rest heq => exact absurd heq (chars_append_ne d h (.inr (.inl rfl)) rest)
  · next rest heq => exact absurd heq (chars_append_ne d h (.inr (.inr rfl)) rest)
  · simp only [decimal_chars d hdigits, hfit]

/-! ### Every number is written in some way -/

/-- A digit as a character. -/
lemma exists_digit {n : Nat} (h : n < 10) :
    ∃ c : Char, c.isDigit = true ∧ hexValue c = n ∧ (c = '0' ↔ n = 0) := by
  have hall : ∀ n : Fin 10, (Json.hexDigit n).isDigit = true ∧ hexValue (Json.hexDigit n) = n ∧
      (Json.hexDigit n = '0' ↔ n = 0) := by decide
  obtain ⟨hdigit, hvalue, hzero⟩ := hall ⟨n, h⟩
  exact ⟨_, hdigit, hvalue, by simpa [Fin.ext_iff] using hzero⟩

/-- Every number is what some decimal without a sign stands for. -/
theorem exists_decimal (n : Nat) : ∃ d : Decimal, d.sign = .none ∧ number 10 d.digits = n := by
  induction n using Nat.strong_induction_on with
  | _ n ih =>
    obtain ⟨c, hdigit, hvalue, hzero⟩ := exists_digit (show n % 10 < 10 by omega)
    by_cases hsmall : n < 10
    · refine ⟨{ first := c, first_digit := hdigit, more_digits := by simp, no_leading_zero := fun _ => rfl },
        rfl, ?_⟩
      simp [Decimal.digits, number, hvalue, Nat.mod_eq_of_lt hsmall]
    · -- The last digit stands behind those of the tenth part.
      obtain ⟨d, hsign, hd⟩ := ih (n / 10) (by omega)
      refine ⟨{ first := d.first, more := d.more ++ [(false, c)], first_digit := d.first_digit,
                more_digits := ?_, no_leading_zero := ?_ }, rfl, ?_⟩
      · intro e he
        rcases List.mem_append.mp he with he | he
        · exact d.more_digits e he
        · rw [List.mem_singleton.mp he]
          exact hdigit
      · intro hfirst
        rw [Decimal.digits, d.no_leading_zero hfirst, hfirst] at hd
        have hzero : number 10 ['0'] = 0 := rfl
        rw [List.map_nil, hzero] at hd
        omega
      · rw [Decimal.digits, number, List.foldl_cons] at hd ⊢
        rw [List.map_append, List.foldl_append, hd]
        simp only [List.map_cons, List.map_nil, List.foldl_cons, List.foldl_nil, hvalue]
        omega

end Traversal.Toml
