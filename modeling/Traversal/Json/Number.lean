import Traversal.Decimal.Layout
import Traversal.Json.Blank

/-!
# JSON numbers

`readNumber` reads a number and gives its value: an integer where 64 bits hold it, otherwise the
double-precision number that its first digits and its exponent make.  `skipNumber` checks the shape
of a number and nothing else.  Both stand behind the sign, if there is one.
-/

namespace Traversal.Json

/-- The value of a number. -/
inductive Number
  | natural (n : Nat)
  /-- The negative of a natural number. -/
  | negative (n : Nat)
  | real (isNegative : Bool) (magnitude : Binary64)
deriving DecidableEq, Repr

/-- What a number is called in a fault. -/
def Number.description : Number → String
  | natural n => "integer `" ++ toString n ++ "`"
  | negative n => "integer `-" ++ toString n ++ "`"
  | real isNegative magnitude => "floating point `" ++ Layout.compact.render isNegative magnitude ++ "`"

/-- The value of a digit. -/
def digit (b : UInt8) : Nat :=
  b.toNat - 48

/-- Whether the next byte is a digit. -/
def startsWithDigit : Bytes → Bool
  | [] => false
  | b :: _ => isDigit b

/-- The bytes after any digits. -/
def skipDigits (rest : Bytes) : Bytes :=
  rest.dropWhile isDigit

/-- A significand, the number of digits that went into it, and what follows them. -/
structure Gathered where
  significand : Nat
  count : Nat
  rest : Bytes

/-- Extends a significand by the digits that still fit into 64 bits. -/
def gather (significand count : Nat) : Bytes → Gathered
  | [] => ⟨significand, count, []⟩
  | b :: rest =>
    if isDigit b && significand * 10 + digit b < Nat.pow 2 64 then
      gather (significand * 10 + digit b) (count + 1) rest
    else ⟨significand, count, b :: rest⟩

/-- Extends an exponent by the digits that follow; none, with the bytes after the digit at fault, if
it leaves 31 bits. -/
def gatherExponent (exponent : Nat) : Bytes → Except Bytes (Nat × Bytes)
  | [] => .ok (exponent, [])
  | b :: rest =>
    if isDigit b then
      if exponent * 10 + digit b < Nat.pow 2 31 then gatherExponent (exponent * 10 + digit b) rest
      else .error rest
    else .ok (exponent, b :: rest)

/-- A power of ten as a magnitude. -/
def power (exponent : Nat) : Binary64 :=
  (Binary64.ofNat (Nat.pow 10 exponent)).getD Binary64.zero

/-- A magnitude times a power of ten; none if it is too large.  A power below `10 ^ -308` is reached by
steps of that size, and each step rounds. -/
def scaleBy (step x : Binary64) (exponent : Int) : Option Binary64 :=
  if x.mantissa = 0 then some x
  else if 308 < exponent then none
  else if 0 ≤ exponent then x.mul (power exponent.toNat)
  else if -308 ≤ exponent then x.div (power (-exponent).toNat)
  else
    match x.div step with
    | some y => scaleBy step y (exponent + 308)
    | none => none
termination_by (-exponent).toNat
decreasing_by omega

/-- A magnitude times a power of ten, as far as the format's powers of ten reach in one step. -/
def scale (x : Binary64) (exponent : Int) : Option Binary64 :=
  scaleBy (power 308) x exponent

/-- The number `significand · 10 ^ exponent`. -/
def real (isNegative : Bool) (significand : Nat) (exponent : Int) (rest : Bytes) :
    Except Misread (Number × Bytes) :=
  match (Binary64.ofNat significand).bind (scale · exponent) with
  | some magnitude => .ok (.real isNegative magnitude, rest)
  | none => stop .numberTooLarge rest

/-- The bytes after the sign of an exponent, and whether it is negative. -/
def exponentSign : Bytes → Bool × Bytes
  | 43 :: rest => (false, rest)
  | 45 :: rest => (true, rest)
  | rest => (false, rest)

/-- Reads an exponent after its `e`. -/
def readExponent (isNegative : Bool) (significand : Nat) (exponent : Int) (rest : Bytes) :
    Except Misread (Number × Bytes) :=
  let (isBelow, rest) := exponentSign rest
  match rest with
  | [] => stop .valueUnfinished []
  | b :: rest =>
    if isDigit b then
      match gatherExponent (digit b) rest with
      | .ok (n, rest) => real isNegative significand (if isBelow then exponent - n else exponent + n) rest
      | .error rest =>
        if significand ≠ 0 && !isBelow then stop .numberTooLarge rest
        else .ok (.real isNegative Binary64.zero, skipDigits rest)
    else stop .badNumber rest

/-- Reads what may follow a fraction. -/
def readTail (isNegative : Bool) (significand : Nat) (exponent : Int) : Bytes →
    Except Misread (Number × Bytes)
  | [] => real isNegative significand exponent []
  | b :: rest =>
    if b = 101 || b = 69 then readExponent isNegative significand exponent rest
    else real isNegative significand exponent (b :: rest)

/-- Reads a fraction after its point.  Digits that no longer fit are dropped. -/
def readFraction (isNegative : Bool) (significand : Nat) (exponent : Int) (rest : Bytes) :
    Except Misread (Number × Bytes) :=
  let g := gather significand 0 rest
  if startsWithDigit g.rest then
    readTail isNegative g.significand (exponent - g.count) (skipDigits g.rest)
  else if g.count = 0 then
    if g.rest.isEmpty then stop .valueUnfinished [] else stopPast .badNumber g.rest
  else readTail isNegative g.significand (exponent - g.count) g.rest

/-- An integer without fraction and exponent. -/
def integer (isNegative : Bool) (significand : Nat) : Number :=
  if !isNegative then .natural significand
  else if significand = 0 || Nat.pow 2 63 < significand then
    .real true ((Binary64.ofNat significand).getD Binary64.zero)
  else .negative significand

/-- Reads what may follow the integer part. -/
def readRest (isNegative : Bool) (significand : Nat) : Bytes → Except Misread (Number × Bytes)
  | [] => .ok (integer isNegative significand, [])
  | b :: rest =>
    if b = 46 then readFraction isNegative significand 0 rest
    else if b = 101 || b = 69 then readExponent isNegative significand 0 rest
    else .ok (integer isNegative significand, b :: rest)

/-- Reads what may follow an integer part whose last digits no longer fit. -/
def readLongRest (isNegative : Bool) (significand : Nat) (exponent : Int) : Bytes →
    Except Misread (Number × Bytes)
  | [] => real isNegative significand exponent []
  | b :: rest =>
    if b = 46 then readFraction isNegative significand exponent rest
    else readTail isNegative significand exponent (b :: rest)

/-- Reads a number after its sign. -/
def readNumber (isNegative : Bool) : Bytes → Except Misread (Number × Bytes)
  | [] => stop .valueUnfinished []
  | b :: rest =>
    if b = 48 then
      if startsWithDigit rest then stopPast .badNumber rest else readRest isNegative 0 rest
    else if isDigit b then
      let g := gather (digit b) 1 rest
      if startsWithDigit g.rest then
        readLongRest isNegative g.significand (g.rest.takeWhile isDigit).length (skipDigits g.rest)
      else readRest isNegative g.significand g.rest
    else stop .badNumber rest

/-- Reads past an exponent after its `e`. -/
def skipExponent (rest : Bytes) : Except Misread Bytes :=
  match (exponentSign rest).2 with
  | [] => stop .badNumber []
  | b :: rest => if isDigit b then .ok (skipDigits rest) else stop .badNumber rest

/-- Reads past what may follow a fraction. -/
def skipTail : Bytes → Except Misread Bytes
  | [] => .ok []
  | b :: rest => if b = 101 || b = 69 then skipExponent rest else .ok (b :: rest)

/-- Reads past what may follow the integer part. -/
def skipRest : Bytes → Except Misread Bytes
  | [] => .ok []
  | b :: rest =>
    if b = 46 then
      if startsWithDigit rest then skipTail (skipDigits rest) else stopPast .badNumber rest
    else skipTail (b :: rest)

/-- Reads past a number after its sign. -/
def skipNumber : Bytes → Except Misread Bytes
  | [] => stop .badNumber []
  | b :: rest =>
    if b = 48 then
      if startsWithDigit rest then stopPast .badNumber rest else skipRest rest
    else if isDigit b then skipRest (skipDigits rest)
    else stop .badNumber rest

/-! ### What is left is shorter -/

theorem length_skipDigits_le (rest : Bytes) : (skipDigits rest).length ≤ rest.length :=
  length_dropWhile_le _ _

theorem length_gather_le (significand count : Nat) (rest : Bytes) :
    (gather significand count rest).rest.length ≤ rest.length := by
  fun_induction gather significand count rest with
  | case1 => simp
  | case2 _ _ _ _ _ ih => simp only [List.length_cons]; omega
  | case3 => simp

theorem length_le_of_gatherExponent {exponent n : Nat} {rest rest' : Bytes}
    (h : gatherExponent exponent rest = .ok (n, rest')) : rest'.length ≤ rest.length := by
  fun_induction gatherExponent exponent rest with
  | case1 => simp only [Except.ok.injEq, Prod.mk.injEq] at h; simp [← h.2]
  | case2 _ _ _ _ _ ih => have := ih h; simp only [List.length_cons]; omega
  | case3 => simp at h
  | case4 => simp only [Except.ok.injEq, Prod.mk.injEq] at h; simp [← h.2]

theorem length_le_of_gatherExponent_error {exponent : Nat} {rest rest' : Bytes}
    (h : gatherExponent exponent rest = .error rest') : rest'.length ≤ rest.length := by
  fun_induction gatherExponent exponent rest with
  | case1 => simp at h
  | case2 _ _ _ _ _ ih => have := ih h; simp only [List.length_cons]; omega
  | case3 => simp only [Except.error.injEq] at h; simp [← h]
  | case4 => simp at h

theorem length_exponentSign_le (rest : Bytes) : (exponentSign rest).2.length ≤ rest.length := by
  unfold exponentSign
  split <;> simp

theorem length_le_of_real {isNegative : Bool} {significand : Nat} {exponent : Int}
    {rest rest' : Bytes} {n : Number} (h : real isNegative significand exponent rest = .ok (n, rest')) :
    rest'.length ≤ rest.length := by
  unfold real at h
  split at h
  · simp only [Except.ok.injEq, Prod.mk.injEq] at h; simp [← h.2]
  · simp [stop] at h

theorem length_le_of_readExponent {isNegative : Bool} {significand : Nat} {exponent : Int}
    {rest rest' : Bytes} {n : Number}
    (h : readExponent isNegative significand exponent rest = .ok (n, rest')) :
    rest'.length ≤ rest.length := by
  have hsign := length_exponentSign_le rest
  unfold readExponent at h
  simp only at h
  split at h
  · simp [stop] at h
  · next b tail heq =>
    rw [heq, List.length_cons] at hsign
    split at h
    · split at h
      · next hg =>
        have h1 := length_le_of_gatherExponent hg
        have h2 := length_le_of_real h
        omega
      · next hg =>
        have h1 := length_le_of_gatherExponent_error hg
        split at h
        · simp [stop] at h
        · simp only [Except.ok.injEq, Prod.mk.injEq] at h
          rw [← h.2]
          have h2 := length_skipDigits_le
          exact Nat.le_trans (h2 _) (by omega)
    · simp [stop] at h

theorem length_le_of_readTail {isNegative : Bool} {significand : Nat} {exponent : Int}
    {rest rest' : Bytes} {n : Number}
    (h : readTail isNegative significand exponent rest = .ok (n, rest')) :
    rest'.length ≤ rest.length := by
  unfold readTail at h
  split at h
  · exact length_le_of_real h
  · split at h
    · have := length_le_of_readExponent h
      simp only [List.length_cons]; omega
    · exact length_le_of_real h

theorem length_le_of_readFraction {isNegative : Bool} {significand : Nat} {exponent : Int}
    {rest rest' : Bytes} {n : Number}
    (h : readFraction isNegative significand exponent rest = .ok (n, rest')) :
    rest'.length ≤ rest.length := by
  have hg := length_gather_le significand 0 rest
  unfold readFraction at h
  simp only at h
  split at h
  · have h1 := length_le_of_readTail h
    have h2 := length_skipDigits_le (gather significand 0 rest).rest
    omega
  · split at h
    · split at h <;> simp [stop, stopPast] at h
    · have h1 := length_le_of_readTail h
      omega

theorem length_le_of_readRest {isNegative : Bool} {significand : Nat} {rest rest' : Bytes}
    {n : Number} (h : readRest isNegative significand rest = .ok (n, rest')) :
    rest'.length ≤ rest.length := by
  unfold readRest at h
  split at h
  · simp only [Except.ok.injEq, Prod.mk.injEq] at h; simp [← h.2]
  · split at h
    · have := length_le_of_readFraction h
      simp only [List.length_cons]; omega
    · split at h
      · have := length_le_of_readExponent h
        simp only [List.length_cons]; omega
      · simp only [Except.ok.injEq, Prod.mk.injEq] at h; simp [← h.2]

theorem length_le_of_readLongRest {isNegative : Bool} {significand : Nat} {exponent : Int}
    {rest rest' : Bytes} {n : Number}
    (h : readLongRest isNegative significand exponent rest = .ok (n, rest')) :
    rest'.length ≤ rest.length := by
  unfold readLongRest at h
  split at h
  · exact length_le_of_real h
  · split at h
    · have := length_le_of_readFraction h
      simp only [List.length_cons]; omega
    · exact length_le_of_readTail h

theorem length_lt_of_readNumber {isNegative : Bool} {rest rest' : Bytes} {n : Number}
    (h : readNumber isNegative rest = .ok (n, rest')) : rest'.length < rest.length := by
  unfold readNumber at h
  split at h
  · simp [stop] at h
  · next b tail =>
    simp only [List.length_cons]
    split at h
    · split at h
      · simp [stopPast] at h
      · have := length_le_of_readRest h; omega
    · split at h
      · have hg := length_gather_le (digit b) 1 tail
        simp only at h
        split at h
        · have h1 := length_le_of_readLongRest h
          have h2 := length_skipDigits_le (gather (digit b) 1 tail).rest
          omega
        · have h1 := length_le_of_readRest h; omega
      · simp [stop] at h

theorem length_le_of_skipExponent {rest rest' : Bytes} (h : skipExponent rest = .ok rest') :
    rest'.length ≤ rest.length := by
  have hsign := length_exponentSign_le rest
  unfold skipExponent at h
  split at h
  · simp [stop] at h
  · next b tail heq =>
    rw [heq, List.length_cons] at hsign
    split at h
    · simp only [Except.ok.injEq] at h
      have := length_skipDigits_le tail
      rw [← h]; omega
    · simp [stop] at h

theorem length_le_of_skipTail {rest rest' : Bytes} (h : skipTail rest = .ok rest') :
    rest'.length ≤ rest.length := by
  unfold skipTail at h
  split at h
  · simp only [Except.ok.injEq] at h; simp [← h]
  · split at h
    · have := length_le_of_skipExponent h
      simp only [List.length_cons]; omega
    · simp only [Except.ok.injEq] at h; simp [← h]

theorem length_le_of_skipRest {rest rest' : Bytes} (h : skipRest rest = .ok rest') :
    rest'.length ≤ rest.length := by
  unfold skipRest at h
  split at h
  · simp only [Except.ok.injEq] at h; simp [← h]
  · next b tail =>
    split at h
    · split at h
      · have h1 := length_le_of_skipTail h
        have h2 := length_skipDigits_le tail
        simp only [List.length_cons]; omega
      · simp [stopPast] at h
    · exact length_le_of_skipTail h

theorem length_lt_of_skipNumber {rest rest' : Bytes} (h : skipNumber rest = .ok rest') :
    rest'.length < rest.length := by
  unfold skipNumber at h
  split at h
  · simp [stop] at h
  · next b tail =>
    simp only [List.length_cons]
    split at h
    · split at h
      · simp [stopPast] at h
      · have := length_le_of_skipRest h; omega
    · split at h
      · have h1 := length_le_of_skipRest h
        have h2 := length_skipDigits_le tail
        omega
      · simp [stop] at h

end Traversal.Json
