import LojbanTree.Decimal.Binary64

/-!
# The shortest decimal that reads back

Many decimals round to the same binary number.  `Binary64.shortest` finds one
with the fewest digits, and of those the nearest to the number itself.

The decimals that round to `m · 2^q` fill an interval around it, closed when
`m` is even and open when it is odd.  If the interval holds a multiple of some
power of ten then it holds one of the two multiples next to the number, so
only these two are looked at, for one digit, two digits and so on.
-/

namespace LojbanTree

/-- A positive decimal `digits · 10^power`. -/
structure Decimal where
  digits : Nat
  power : Int
  deriving DecidableEq, Repr

namespace Binary64

/--
A positive number as a fraction, and the numerators over the same denominator
between which the decimals lie that round to it.
-/
structure Interval where
  lower : Nat
  value : Nat
  upper : Nat
  denominator : Nat
  /-- Whether the two ends round to the number as well. -/
  closed : Bool

/--
The decimals that round to a number.  The neighbour below is half as far away
when the significand is the least one of its exponent.
-/
def interval (number : Binary64) : Interval :=
  let quarters := 4 * number.significand
  let gap :=
    if number.significand = leastNormal ∧ leastExponent < number.exponent
    then 1 else 2
  let (factor, denominator) := scaled 1 4 number.exponent
  { lower := (quarters - gap) * factor
    value := quarters * factor
    upper := (quarters + 2) * factor
    denominator := denominator
    closed := number.significand % 2 = 0 }

/-- Whether `digits · unit / scale` lies in an interval. -/
def Interval.holds (interval : Interval) (digits unit scale : Nat) : Bool :=
  let point := digits * unit * interval.denominator
  let lower := interval.lower * scale
  let upper := interval.upper * scale
  if interval.closed then lower ≤ point && point ≤ upper
  else lower < point && point < upper

/--
The multiple of `10^power` in an interval that is nearest to its value, the
even one of two that are equally near.
-/
def Interval.nearest? (interval : Interval) (power : Int) : Option Decimal :=
  let unit := Nat.pow 10 power.toNat
  let scale := Nat.pow 10 (-power).toNat
  let numerator := interval.value * scale
  let step := unit * interval.denominator
  let below := numerator / step
  let above := below + 1
  let twice := 2 * (numerator % step)
  let nearer :=
    if twice < step ∨ (twice = step ∧ below % 2 = 0) then below else above
  let farther := if nearer = below then above else below
  if interval.holds nearer unit scale then some ⟨nearer, power⟩
  else if interval.holds farther unit scale then some ⟨farther, power⟩
  else none

/-- The power of ten of the leading digit of a positive quotient. -/
def leadingPower (numerator denominator : Nat) : Int :=
  let upper := (Nat.toDigits 10 numerator).length
  let lower := (Nat.toDigits 10 denominator).length
  let estimate : Int := upper - lower
  let reaches :=
    if 0 ≤ estimate then denominator * Nat.pow 10 estimate.toNat ≤ numerator
    else denominator ≤ numerator * Nat.pow 10 (-estimate).toNat
  if reaches then estimate else estimate - 1

/-- A decimal without zeros at its end; `fuel` bounds the number of zeros. -/
def withoutZeros : Nat → Decimal → Decimal
  | 0, decimal => decimal
  | fuel + 1, decimal =>
      if decimal.digits ≠ 0 ∧ decimal.digits % 10 = 0 then
        withoutZeros fuel ⟨decimal.digits / 10, decimal.power + 1⟩
      else
        decimal

/-- A decimal with the fewest digits that rounds to the absolute value. -/
def shortest (number : Binary64) : Decimal :=
  if number.isZero then
    ⟨0, 0⟩
  else
    let interval := number.interval
    let leading := leadingPower interval.value interval.denominator
    let found := (List.range 17).findSome? fun (count : Nat) =>
      interval.nearest? (leading - count)
    withoutZeros 20 (found.getD ⟨0, 0⟩)

end Binary64

end LojbanTree
