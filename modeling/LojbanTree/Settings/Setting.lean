import LojbanTree.Decimal.Binary64
import LojbanTree.Decimal.Extended64

/-!
# Settings as they are written

A setting is a scalar, a list or a table.  The consumers of a setting want a
text or a count, and most scalars can be read as either: a truth value counts
as one or zero, and a number and its text stand for each other.
-/

namespace LojbanTree

/-- A setting. -/
inductive Setting where
  /-- A place in a list that nothing was written to. -/
  | absent
  | text (content : String)
  | integer (number : Int)
  | float (number : Extended64)
  | boolean (flag : Bool)
  | list (items : List Setting)
  | table (entries : List (String × Setting))
  deriving Repr, Inhabited

namespace Setting

/-- The greatest count. -/
def greatestCount : Nat := Bounds.unsigned

/-- The words that count as one. -/
def affirmative : List String := ["true", "on", "yes"]

/-- The words that count as zero. -/
def dissenting : List String := ["false", "off", "no"]

/-- The count of decimal digits, which a plus sign may precede. -/
def countOfDigits? (digits : List Char) : Option Nat :=
  let digits := if digits.head? = some '+' then digits.drop 1 else digits
  let number := Nat.ofDigitChars 10 digits 0
  if !digits.isEmpty && digits.all Char.isDigit && number ≤ greatestCount then
    some number
  else
    none

/-- The count that a text stands for. -/
def countOfText? (content : String) : Option Nat :=
  let word := content.toLower
  if affirmative.contains word then some 1
  else if dissenting.contains word then some 0
  else countOfDigits? content.toList

/-- A setting read as a text. -/
def toText? : Setting → Option String
  | .text content => some content
  | .integer number => some (toString number)
  | .float number => some number.text
  | .boolean flag => some (if flag then "true" else "false")
  | .absent | .list _ | .table _ => none

/-- A setting read as a count. -/
def toCount? : Setting → Option Nat
  | .text content => countOfText? content
  | .integer number => if 0 ≤ number then some number.toNat else none
  | .float number => some (number.rounded greatestCount)
  | .boolean flag => some (if flag then 1 else 0)
  | .absent | .list _ | .table _ => none

/-- The entries of a table; everything else has none. -/
def entries : Setting → List (String × Setting)
  | .table entries => entries
  | _ => []

/-- The items of a list; everything else has none. -/
def items : Setting → List Setting
  | .list items => items
  | _ => []

/--
The field of a section.  A section is a table of its fields or a list of
their values in the order in which the section names them.
-/
def field? (name : String) (position : Nat) : Setting → Option Setting
  | .table entries => entries.lookup name
  | .list items => items[position]?
  | _ => none

end Setting

end LojbanTree
