import LojbanTree.Decimal.Shortest

/-!
# Decimals as text

A layout fixes the free choices in writing a decimal: which magnitudes are
written out and which with a power of ten, and whether a whole number shows
that it is a float.
-/

namespace LojbanTree

/-- How a decimal is written. -/
structure DecimalLayout where
  /-- The range of leading powers that are written out, if there is a limit. -/
  writtenOut : Option (Int × Int)
  /-- What follows the digits of a whole number that is written out. -/
  wholeMark : String

namespace DecimalLayout

/-- The digits of a natural number. -/
def digitsText (digits : Nat) : String := String.ofList (Nat.toDigits 10 digits)

/-- A decimal written with all its places before and after the point. -/
def placesText (layout : DecimalLayout) (decimal : Decimal) : String :=
  let digits := Nat.toDigits 10 decimal.digits
  if 0 ≤ decimal.power then
    String.ofList (digits ++ List.replicate decimal.power.toNat '0') ++
      layout.wholeMark
  else
    let places := (-decimal.power).toNat
    let padded := List.replicate (places + 1 - digits.length) '0' ++ digits
    let whole := padded.length - places
    String.ofList (padded.take whole ++ '.' :: padded.drop whole)

/-- A decimal written as one digit, a fraction and a power of ten. -/
def powerText (decimal : Decimal) (leading : Int) : String :=
  let digits := Nat.toDigits 10 decimal.digits
  let fraction := if digits.length ≤ 1 then [] else '.' :: digits.drop 1
  let sign := if leading < 0 then '-' else '+'
  String.ofList
    (digits.take 1 ++ fraction ++ 'e' :: sign :: Nat.toDigits 10 leading.natAbs)

/-- The text of a number in a layout. -/
def text (layout : DecimalLayout) (number : Binary64) : String :=
  let decimal := number.shortest
  let leading :=
    decimal.power + ((Nat.toDigits 10 decimal.digits).length - 1 : Nat)
  let positional :=
    match layout.writtenOut with
    | none => true
    | some (least, greatest) => least ≤ leading && leading ≤ greatest
  let magnitude :=
    if positional then layout.placesText decimal else powerText decimal leading
  if number.negative then "-" ++ magnitude else magnitude

end DecimalLayout

end LojbanTree
