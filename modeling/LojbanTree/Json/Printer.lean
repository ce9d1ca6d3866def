import LojbanTree.Decimal.Layout
import LojbanTree.Json.Basic
import LojbanTree.Text.Digits

/-!
# Compact JSON text

Values are written without any blank.  In a string the quote, the backslash
and the control characters below U+0020 are escaped, five of the latter by a
letter; everything else stands for itself.
-/

namespace LojbanTree

namespace Json

/-- How a character is written inside a string. -/
def escape (char : Char) : List Char :=
  if char = '"' then ['\\', '"']
  else if char = '\\' then ['\\', '\\']
  else if char = '\x08' then ['\\', 'b']
  else if char = '\t' then ['\\', 't']
  else if char = '\n' then ['\\', 'n']
  else if char = '\x0c' then ['\\', 'f']
  else if char = '\r' then ['\\', 'r']
  else if char.toNat < 0x20 then
    ['\\', 'u', '0', '0', Text.hexDigit (char.toNat / 16),
      Text.hexDigit (char.toNat % 16)]
  else [char]

/-- A string between quotes. -/
def quoted (text : String) : List Char :=
  '"' :: (text.toList.flatMap escape ++ ['"'])

/--
A float shows its point from `0.00001` up to sixteen digits before the point;
beyond that it is written with a power of ten.
-/
def floatLayout : DecimalLayout where
  writtenOut := some (-5, 15)
  wholeMark := ".0"

/-- The text of a number. -/
def Number.text : Number → String
  | .integer value => toString value
  | .float value => floatLayout.text value

mutual

/-- The characters of a value in compact form. -/
def chars : Json → List Char
  | .null => "null".toList
  | .boolean value => if value then "true".toList else "false".toList
  | .number value => value.text.toList
  | .string value => quoted value
  | .array elements => '[' :: (elementChars elements ++ [']'])
  | .object members => '\x7b' :: (memberChars members ++ ['\x7d'])

/-- The characters of elements with a comma between two of them. -/
def elementChars : List Json → List Char
  | [] => []
  | [element] => chars element
  | element :: rest => chars element ++ ',' :: elementChars rest

/-- The characters of members with a comma between two of them. -/
def memberChars : List (String × Json) → List Char
  | [] => []
  | [(key, value)] => quoted key ++ ':' :: chars value
  | (key, value) :: rest =>
      quoted key ++ ':' :: (chars value ++ ',' :: memberChars rest)

end

/-- The compact text of a value. -/
def compact (value : Json) : String := String.ofList value.chars

end Json

end LojbanTree
