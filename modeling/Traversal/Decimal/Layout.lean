import Traversal.Decimal.Shortest

/-!
# Layouts of decimal numbers

A layout turns the digits of a decimal into text.  It decides which decimal places of the leading
digit are written positionally; outside of them the number is written with one digit before the
point and an exponent of at least two digits that carries its sign.  A number without a fraction is
written with `.0`.
-/

namespace Traversal

/-- Where positional notation begins and ends, by the place of the leading digit. -/
structure Layout where
  least : Option Int
  most : Option Int

namespace Layout

/-- Every number is written positionally. -/
def positional : Layout := ⟨none, none⟩

/-- Numbers from `0.00001` up to, but not including, `10 ^ 16` are written positionally. -/
def compact : Layout := ⟨some (-5), some 15⟩

/-- Whether a number whose leading digit has the given place is written positionally. -/
def isPositional (layout : Layout) (place : Int) : Bool :=
  (match layout.least with
    | some least => least ≤ place
    | none => true) &&
  (match layout.most with
    | some most => place ≤ most
    | none => true)

/-- `count` zeros. -/
def zeros (count : Int) : List Char :=
  List.replicate count.toNat '0'

/-- The decimal `digits · 10 ^ power` in positional notation. -/
def written (digits : List Char) (power : Int) : List Char :=
  if 0 ≤ power then digits ++ zeros power ++ ['.', '0']
  else
    let whole := digits.length + power
    if 0 < whole then digits.take whole.toNat ++ '.' :: digits.drop whole.toNat
    else ['0', '.'] ++ zeros (-whole) ++ digits

/-- An exponent: its sign and its digits. -/
def exponent (place : Int) : List Char :=
  (if place < 0 then '-' else '+') :: Nat.toDigits 10 place.natAbs

/-- The text of a magnitude with its sign. -/
def render (layout : Layout) (negative : Bool) (x : Binary64) : String :=
  let (digits, power) := x.shortest
  let digits := Nat.toDigits 10 digits
  let place : Int := digits.length - 1 + power
  let body :=
    if x.mantissa = 0 then ['0', '.', '0']
    else if layout.isPositional place then written digits power
    else
      match digits with
      | [d] => d :: 'e' :: exponent place
      | d :: more => d :: '.' :: more ++ 'e' :: exponent place
      | [] => []
  String.ofList (if negative then '-' :: body else body)

end Layout
end Traversal
