import Traversal.Decimal.Binary64

/-!
# The shortest decimal that reads back

Every real number between the midpoints to its two neighbours rounds to a magnitude, and the
midpoints themselves do if its mantissa is even.  `Binary64.shortest` gives the decimal with the
fewest digits in that interval, and of those the one nearest to the magnitude.
-/

namespace Traversal.Binary64

/-- The magnitude and the midpoints to its neighbours, as numerators over one denominator. -/
structure Interval where
  low : Nat
  value : Nat
  high : Nat
  den : Nat
  closed : Bool

/-- The reals that round to a nonzero magnitude. -/
def interval (x : Binary64) : Interval :=
  let (n, d) := x.ratio
  let unit := if 0 ≤ x.exponent then Nat.pow 2 x.exponent.toNat else 1
  let narrow := x.mantissa = Nat.pow 2 52 && x.exponent ≠ -1074
  -- over four times the denominator, so that a quarter of a unit is a natural number
  { low := 4 * n - (if narrow then unit else 2 * unit)
    value := 4 * n
    high := 4 * n + 2 * unit
    den := 4 * d
    closed := x.mantissa % 2 = 0 }

/-- Whether `digits · 10 ^ power` lies in the interval. -/
def Interval.holds (i : Interval) (digits : Nat) (power : Int) : Bool :=
  let (a, b) := if 0 ≤ power then (digits * Nat.pow 10 power.toNat * i.den, 1)
    else (digits * i.den, Nat.pow 10 (-power).toNat)
  if i.closed then i.low * b ≤ a && a ≤ i.high * b else i.low * b < a && a < i.high * b

/-- The greatest `k` with `10 ^ k ≤ num / den`, searched downwards from `k`. -/
def magnitudeFrom (num den : Nat) : Nat → Int → Int
  | 0, k => k
  | fuel + 1, k =>
    let fits := if 0 ≤ k then den * Nat.pow 10 k.toNat ≤ num else den ≤ num * Nat.pow 10 (-k).toNat
    if fits then k else magnitudeFrom num den fuel (k - 1)

/-- The decimal place of the leading digit of a nonzero quotient. -/
def magnitude (num den : Nat) : Int :=
  let bits : Int := (num.log2 : Int) - (den.log2 : Int)
  magnitudeFrom num den 8 (bits * 30103 / 100000 + 2)

/-- The best decimal of the interval on the grid of multiples of `10 ^ power`, if there is one. -/
def Interval.onGrid (i : Interval) (power : Int) : Option Nat :=
  let (n, d) := if 0 ≤ power then (i.value, i.den * Nat.pow 10 power.toNat)
    else (i.value * Nat.pow 10 (-power).toNat, i.den)
  let below := n / d
  let above := below + 1
  match i.holds below power && 0 < below, i.holds above power with
  | true, false => some below
  | false, true => some above
  | false, false => none
  | true, true =>
    let twice := 2 * (n % d)
    if twice < d then some below
    else if d < twice then some above
    else if below % 2 = 0 then some below else some above

/-- The first grid, from coarse to fine, that holds a decimal of the interval. -/
def Interval.search (i : Interval) : Nat → Int → Nat × Int
  | 0, power => (i.value / i.den, power)
  | fuel + 1, power =>
    match i.onGrid power with
    | some digits => (digits, power)
    | none => i.search fuel (power - 1)

/-- The digits and the decimal place of the last digit of the shortest decimal that reads back. -/
def shortest (x : Binary64) : Nat × Int :=
  if x.mantissa = 0 then (0, 0)
  else
    let i := x.interval
    let (digits, power) := i.search 20 (magnitude i.value i.den + 1)
    strip 20 digits power
where
  /-- The same decimal without trailing zeros. -/
  strip : Nat → Nat → Int → Nat × Int
    | 0, digits, power => (digits, power)
    | fuel + 1, digits, power =>
      if digits ≠ 0 && digits % 10 = 0 then strip fuel (digits / 10) (power + 1) else (digits, power)

end Traversal.Binary64
