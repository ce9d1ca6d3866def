/-!
# Numbers of 64 bits

The greatest integers that fit 64 bits bound what is read elsewhere.  The least
integer with a sign is one further from zero than the greatest one.

A binary floating-point number has 53 significant bits.  A finite one is a sign, a
significand `m` and an exponent `q`, and stands for `m · 2^q`.  In canonical form
`m` has exactly 53 bits, or `q` is the least exponent and `m` has fewer.

`Binary64.ofDecimal` rounds a decimal to the nearest such number, to the even
significand when two are equally near.  All arithmetic is on natural numbers
of unbounded size.
-/

namespace LojbanTree

namespace Bounds

/-- The greatest integer of 64 bits with a sign. -/
def signed : Nat := 0x7fffffffffffffff

/-- The greatest integer of 64 bits without a sign. -/
def unsigned : Nat := 0xffffffffffffffff

end Bounds

/-- A finite binary floating-point number. -/
structure Binary64 where
  /-- Whether the sign is minus; zero has a sign too. -/
  negative : Bool
  significand : Nat
  exponent : Int
  deriving DecidableEq, Repr, Inhabited

namespace Binary64

/-- The number of bits of a full significand. -/
def precision : Nat := 53

/-- The least significand with all its bits. -/
def leastNormal : Nat := 1 <<< (precision - 1)

/-- The exponent of the smallest numbers. -/
def leastExponent : Int := -1074

/-- The exponent of the largest numbers. -/
def greatestExponent : Int := 971

/-- Zero with a sign. -/
def zero (negative : Bool) : Binary64 := ⟨negative, 0, leastExponent⟩

/-- Whether a number is one of the two zeros. -/
def isZero (number : Binary64) : Bool := number.significand == 0

/-- The quotient rounded to the nearest natural number, ties to the even one. -/
def roundedQuotient (numerator denominator : Nat) : Nat :=
  let quotient := numerator / denominator
  let twice := 2 * (numerator % denominator)
  if twice < denominator then quotient
  else if twice = denominator ∧ quotient % 2 = 0 then quotient
  else quotient + 1

/-- Two natural numbers whose quotient is `numerator / denominator · 2^shift`. -/
def scaled (numerator denominator : Nat) (shift : Int) : Nat × Nat :=
  if 0 ≤ shift then (numerator <<< shift.toNat, denominator)
  else (numerator, denominator <<< (-shift).toNat)

/--
The largest exponent at which the quotient still has 53 bits before the binary
point, but no exponent below the least one.
-/
def exponentFor (numerator denominator : Nat) : Int :=
  let estimate : Int := Nat.log2 numerator - Nat.log2 denominator - precision
  let (upper, lower) := scaled numerator denominator (-(estimate + 1))
  let exponent := if leastNormal * lower ≤ upper then estimate + 1 else estimate
  if exponent < leastExponent then leastExponent else exponent

/-- The number nearest to a positive quotient, if it is not too large. -/
def ofQuotient? (negative : Bool) (numerator denominator : Nat) :
    Option Binary64 :=
  let exponent := exponentFor numerator denominator
  let (upper, lower) := scaled numerator denominator (-exponent)
  let significand := roundedQuotient upper lower
  let (significand, exponent) :=
    if significand = 2 * leastNormal then (leastNormal, exponent + 1)
    else (significand, exponent)
  if exponent ≤ greatestExponent then some ⟨negative, significand, exponent⟩
  else none

/--
The number nearest to `digits · 10^power`, if it is not too large.

A decimal below `10^-350` is nearer to zero than to any other number and one
from `10^310` on is too large, so the powers of ten that are computed stay
small whatever `power` is.
-/
def ofDecimal? (negative : Bool) (digits : Nat) (power : Int) : Option Binary64 :=
  if digits = 0 then
    some (zero negative)
  else
    let magnitude : Int := (Nat.toDigits 10 digits).length + power
    if magnitude < -350 then some (zero negative)
    else if 310 < magnitude then none
    else if 0 ≤ power then ofQuotient? negative (digits * Nat.pow 10 power.toNat) 1
    else ofQuotient? negative digits (Nat.pow 10 (-power).toNat)

/--
The natural number nearest to the absolute value, a half going up.
-/
def roundedMagnitude (number : Binary64) : Nat :=
  if 0 ≤ number.exponent then
    number.significand <<< number.exponent.toNat
  else
    let unit := 1 <<< (-number.exponent).toNat
    (2 * number.significand + unit) / (2 * unit)

end Binary64

end LojbanTree
