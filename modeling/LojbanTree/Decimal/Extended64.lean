import LojbanTree.Decimal.Layout

/-!
# Floating-point numbers with infinities

Besides the finite numbers there are two infinities and a value that is not a
number at all.
-/

namespace LojbanTree

/-- A floating-point number, finite or not. -/
inductive Extended64 where
  | finite (number : Binary64)
  | infinite (negative : Bool)
  | undefined
  deriving DecidableEq, Repr

namespace Extended64

/-- A whole number is written without a point, and no power of ten is used. -/
def plainLayout : DecimalLayout where
  writtenOut := none
  wholeMark := ""

/-- The text of a number. -/
def text : Extended64 → String
  | .finite number => plainLayout.text number
  | .infinite negative => if negative then "-inf" else "inf"
  | .undefined => "NaN"

/--
The nearest natural number up to `greatest`, a half going up.  What lies
below the natural numbers or is no number counts as zero.
-/
def rounded (greatest : Nat) : Extended64 → Nat
  | .finite number =>
      if number.negative then 0 else min number.roundedMagnitude greatest
  | .infinite negative => if negative then 0 else greatest
  | .undefined => 0

end Extended64

end LojbanTree
