import LojbanTree.Decimal.Binary64
import LojbanTree.Settings.Setting
import LojbanTree.Text.Digits

/-!
# Numbers and truth values in TOML

These are written as a single word without blanks.  An integer fits 64 bits
and has no needless zero in front; it may also be written with base 16, 8 or
2.  Underscores may stand between two digits.
-/

namespace LojbanTree

namespace Toml

/-- Whether a character may occur in the word of a number or truth value. -/
def isWordChar (char : Char) : Bool :=
  char.isAlphanum || char == '_' || char == '+' || char == '-' || char == '.'

/-- Digits without the underscores between them. -/
def joined? (isDigit : Char → Bool) : List Char → Option (List Char)
  | [] => none
  | [digit] => if isDigit digit then some [digit] else none
  | digit :: '_' :: rest =>
      if isDigit digit then (joined? isDigit rest).map (digit :: ·) else none
  | digit :: rest =>
      if isDigit digit then (joined? isDigit rest).map (digit :: ·) else none

/-- The value of digits in a base up to sixteen. -/
def valueIn? (base : Nat) (digits : List Char) : Option Nat := do
  let isDigit char := (Text.hexValue? char).any (· < base)
  let digits ← joined? isDigit digits
  some (digits.foldl
    (fun value digit => value * base + (Text.hexValue? digit).getD 0) 0)

/-- Whether a word begins with a minus, and the word behind its sign. -/
def signed (word : List Char) : Bool × List Char :=
  match word with
  | '-' :: rest => (true, rest)
  | '+' :: rest => (false, rest)
  | _ => (false, word)

/-- Decimal digits without a needless zero in front. -/
def whole? (word : List Char) : Option (List Char) := do
  let digits ← joined? Char.isDigit word
  if digits.head? = some '0' ∧ digits.length ≠ 1 then none else some digits

/-- An integer that fits 64 bits. -/
def fitted? (negative : Bool) (value : Nat) : Option Setting :=
  if negative then
    if value ≤ Bounds.signed + 1 then some (.integer (-value)) else none
  else
    if value ≤ Bounds.signed then some (.integer value) else none

/-- The integer that a word spells. -/
def integer? (word : List Char) : Option Setting :=
  match word with
  | '0' :: 'x' :: digits => (valueIn? 16 digits).bind (fitted? false)
  | '0' :: 'o' :: digits => (valueIn? 8 digits).bind (fitted? false)
  | '0' :: 'b' :: digits => (valueIn? 2 digits).bind (fitted? false)
  | _ => do
      let (negative, digits) := signed word
      let digits ← whole? digits
      fitted? negative (Nat.ofDigitChars 10 digits 0)

/-- The power of ten that follows the letter for it. -/
def power? (word : List Char) : Option Int := do
  let (negative, digits) := signed word
  let digits ← joined? Char.isDigit digits
  let value : Int := Nat.ofDigitChars 10 digits 0
  some (if negative then -value else value)

/--
The float with the given digits.  A positive one beyond all floats is refused,
and a negative one is infinite.
-/
def nearest? (negative : Bool) (digits : List Char) (power : Int) :
    Option Setting :=
  match Binary64.ofDecimal? negative (Nat.ofDigitChars 10 digits 0) power with
  | some number => some (.float (.finite number))
  | none => if negative then some (.float (.infinite true)) else none

/-- Whether a character announces a power of ten. -/
def isPowerMark (char : Char) : Bool := char == 'e' || char == 'E'

/-- The float that a word spells. -/
def float? (word : List Char) : Option Setting := do
  let (negative, magnitude) := signed word
  if magnitude = "inf".toList then
    return .float (.infinite negative)
  if magnitude = "nan".toList then
    return .float .undefined
  let mantissa := magnitude.takeWhile (!isPowerMark ·)
  let whole ← whole? (mantissa.takeWhile (· != '.'))
  let power ←
    match magnitude.dropWhile (!isPowerMark ·) with
    | [] => some none
    | _ :: word => (power? word).map some
  match mantissa.dropWhile (· != '.'), power with
  | [], none => none
  | [], some power => nearest? negative whole power
  | _ :: fraction, power => do
      let fraction ← joined? Char.isDigit fraction
      nearest? negative (whole ++ fraction) (power.getD 0 - fraction.length)

/-- The number or truth value that a word spells. -/
def scalar? (word : List Char) : Option Setting :=
  if word = "true".toList then some (.boolean true)
  else if word = "false".toList then some (.boolean false)
  else (integer? word).or (float? word)

end Toml

end LojbanTree
