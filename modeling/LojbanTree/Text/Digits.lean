/-!
# Digits in other forms

Hexadecimal digits are written in lower case and read in either case.

A superscript numeral is written in raised digits.  Zero is written as nothing
at all.
-/

namespace LojbanTree

namespace Text

/-- The digit of a number below sixteen. -/
def hexDigit (value : Nat) : Char := Nat.digitChar value

/-- The value of a digit in either case. -/
def hexValue? (char : Char) : Option Nat :=
  if char.isDigit then some (char.toNat - '0'.toNat)
  else if 'a' ≤ char ∧ char ≤ 'f' then some (char.toNat - 'a'.toNat + 10)
  else if 'A' ≤ char ∧ char ≤ 'F' then some (char.toNat - 'A'.toNat + 10)
  else none

end Text

namespace Superscript

/-- The raised digits in ascending order. -/
def digits : List Char := "⁰¹²³⁴⁵⁶⁷⁸⁹".toList

/-- The raised form of a digit; other characters stay as they are. -/
def raise (digit : Char) : Char :=
  digits.getD (digit.toNat - '0'.toNat) digit

/-- The raised numeral of a number. -/
def numeral (value : Nat) : List Char :=
  if value = 0 then [] else (Nat.toDigits 10 value).map raise

end Superscript

end LojbanTree
