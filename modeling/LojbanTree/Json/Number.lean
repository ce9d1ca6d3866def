import LojbanTree.Decimal.Binary64
import LojbanTree.Json.Basic
import LojbanTree.Json.Failure

/-!
# Reading JSON numbers

A numeral has a sign, a whole part, and optionally a fraction and a power of
ten.  Without the last two it is an integer as long as it fits 64 bits, and
every other numeral is the nearest floating-point number.  The numeral `-0` is
a float, because only a float can be a negative zero.

Every numeral is rounded correctly here, however long it is.  A reader that
gives up some exactness for speed may end at a neighbouring float for a numeral
with many digits or a large power.
-/

namespace LojbanTree

namespace Json

/-- What a reader finds, unless it stops. -/
abbrev Reading := Except Stop

namespace Number

/-- The value of decimal digits. -/
def valueOf (digits : List Char) : Nat := Nat.ofDigitChars 10 digits 0

/-- Powers of ten are counted up to this value. -/
def greatestPower : Nat := 0x7fffffff

/-- The digits before the point, without a needless zero. -/
def readWhole : List Char → Reading (List Char × List Char)
  | [] => .error (.before .endInValue [])
  | '0' :: rest =>
      match rest with
      | digit :: _ =>
          if digit.isDigit then .error (.before .invalidNumber rest)
          else .ok (['0'], rest)
      | [] => .ok (['0'], [])
  | digit :: rest =>
      if digit.isDigit then
        .ok (digit :: rest.takeWhile Char.isDigit, rest.dropWhile Char.isDigit)
      else
        .error (.before .invalidNumber (digit :: rest))

/-- A point and the digits after it, if there is a point. -/
def readFraction : List Char → Reading (Option (List Char) × List Char)
  | '.' :: rest =>
      match rest.takeWhile Char.isDigit with
      | [] =>
          if rest.isEmpty then .error (.before .endInValue [])
          else .error (.before .invalidNumber rest)
      | digits => .ok (some digits, rest.dropWhile Char.isDigit)
  | rest => .ok (none, rest)

/-- A power of ten. -/
structure Power where
  negative : Bool
  /-- How large the power is, unless it is above the greatest one. -/
  size : Option Nat

/--
The size of a power of ten from its digits.  Reading stops right after the
digit that makes it too large.
-/
def readSize (size : Nat) : List Char → Option Nat × List Char
  | [] => (some size, [])
  | digit :: rest =>
      if digit.isDigit then
        let larger := 10 * size + valueOf [digit]
        if greatestPower < larger then (none, rest) else readSize larger rest
      else
        (some size, digit :: rest)

/-- The sign and the size of a power of ten, if there is one. -/
def readPower : List Char → Reading (Option Power × List Char)
  | mark :: rest =>
      if mark = 'e' ∨ mark = 'E' then
        let (negative, rest) :=
          match rest with
          | '+' :: rest => (false, rest)
          | '-' :: rest => (true, rest)
          | rest => (false, rest)
        match rest with
        | [] => .error (.before .endInValue [])
        | digit :: _ =>
            if digit.isDigit then
              let (size, rest) := readSize 0 rest
              .ok (some ⟨negative, size⟩, rest)
            else
              .error (.before .invalidNumber rest)
      else
        .ok (none, mark :: rest)
  | [] => .ok (none, [])

/--
The float nearest to a decimal; a decimal beyond all floats stops.  This is the
correctly rounded value, which a faster reader may miss by the last bit.
-/
def nearest (negative : Bool) (digits : Nat) (power : Int) (rest : List Char) :
    Reading (Number × List Char) :=
  match Binary64.ofDecimal? negative digits power with
  | some value => .ok (.float value, rest)
  | none => .error (.after .numberTooLarge rest)

/-- The number of a numeral without fraction and power. -/
def ofWhole (negative : Bool) (value : Nat) (rest : List Char) :
    Reading (Number × List Char) :=
  if negative = false ∧ value ≤ Bounds.unsigned then .ok (.integer value, rest)
  else if negative = true ∧ 0 < value ∧ value ≤ Bounds.signed + 1 then
    .ok (.integer (-value), rest)
  else nearest negative value 0 rest

/--
The number of a numeral with a fraction or a power.  A power above the
greatest one leaves zero where it is or shrinks the number to zero; otherwise
it makes the number too large.
-/
def ofParts (negative : Bool) (whole fraction : List Char) (power : Option Power)
    (rest : List Char) : Reading (Number × List Char) :=
  let digits := valueOf (whole ++ fraction)
  match power with
  | none => nearest negative digits (-(fraction.length : Int)) rest
  | some ⟨sign, some size⟩ =>
      nearest negative digits
        ((if sign then -(size : Int) else size) - fraction.length) rest
  | some ⟨sign, none⟩ =>
      if digits ≠ 0 ∧ sign = false then
        .error (.after .numberTooLarge rest)
      else
        .ok (.float (.zero negative), rest.dropWhile Char.isDigit)

/-- The number at the start of a text that begins with a minus or a digit. -/
def read (text : List Char) : Reading (Number × List Char) := do
  let (negative, text) :=
    match text with
    | '-' :: rest => (true, rest)
    | rest => (false, rest)
  let (whole, text) ← readWhole text
  let (fraction, text) ← readFraction text
  let (power, text) ← readPower text
  match fraction, power with
  | none, none => ofWhole negative (valueOf whole) text
  | fraction, power => ofParts negative whole (fraction.getD []) power text

end Number

end Json

end LojbanTree
