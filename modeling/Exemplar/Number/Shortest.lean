/-!
The shortest decimal that rounds to a given number. The number comes with the interval of all reals
that round to it, and the decimals with a fixed number of digits form a grid: if any of them lies in
the interval, one of the two neighbours of the number does. So the coarsest grid with a neighbour in
the interval has the fewest digits, and the nearer neighbour is the best one there.
-/

set_option autoImplicit false
set_option relaxedAutoImplicit false

namespace Exemplar

/-- A positive number `centre / denominator` with the interval of the numbers that round to it, from
`low / denominator` to `high / denominator`. The ends belong to it if it is `closed`. -/
structure RoundingInterval where
  low : Nat
  centre : Nat
  high : Nat
  denominator : Nat
  closed : Bool

/-- A decimal `0.d₁d₂… × 10 ^ point` given by its digits. -/
structure Decimal where
  digits : List Char
  point : Int

namespace Decimal

/-- The decimal `count × 10 ^ exponent`, without zeros at its end. -/
def ofScaled (count : Nat) (exponent : Int) : Decimal :=
  let digits := Nat.toDigits 10 count
  ⟨(digits.reverse.dropWhile (· = '0')).reverse, digits.length + exponent⟩

end Decimal

namespace RoundingInterval

/-- The exponent `point` with `10 ^ (point - 1) ≤ centre / denominator < 10 ^ point`. -/
def point (interval : RoundingInterval) : Int :=
  if interval.denominator ≤ interval.centre then
    (Nat.toDigits 10 (interval.centre / interval.denominator)).length
  else
    1 - (Nat.toDigits 10 ((interval.denominator - 1) / interval.centre)).length

/-- The multiple of `10 ^ exponent` nearest to the number among its two neighbours that lie in the
interval. The upper one is taken if both are equally near. -/
def neighbour? (interval : RoundingInterval) (exponent : Int) : Option Nat :=
  let unit := Nat.pow 10 exponent.toNat * interval.denominator
  let scale := Nat.pow 10 (-exponent).toNat
  let inside (count : Nat) : Bool :=
    if interval.closed then
      interval.low * scale ≤ count * unit && count * unit ≤ interval.high * scale
    else
      interval.low * scale < count * unit && count * unit < interval.high * scale
  let below := interval.centre * scale / unit
  let above := below + 1
  if inside below && (!inside above || 2 * (interval.centre * scale) < (below + above) * unit) then
    some below
  else if inside above then some above
  else none

/-- The decimal of at most `limit` digits with the fewest digits in the interval. -/
def shortest? (interval : RoundingInterval) (limit : Nat) : Option Decimal :=
  (List.range limit).findSome? fun (count : Nat) ↦
    let exponent := interval.point - (count + 1 : Nat)
    (interval.neighbour? exponent).map (Decimal.ofScaled · exponent)

end RoundingInterval

end Exemplar
