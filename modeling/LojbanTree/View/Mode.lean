import LojbanTree.Decimal.Binary64
import LojbanTree.Fault
import LojbanTree.View.LegacyCode

/-!
# Modes

A mode is what a user writes to choose a view: letters or a legacy code.  A
text of decimal digits is a code and every other text is taken as letters, so
a mode can be told from its text; whether it describes a view is decided later.
-/

namespace LojbanTree

/-- A view as it was written. -/
inductive Mode where
  | letters (text : String)
  | code (value : Int)
  deriving DecidableEq, Repr

namespace Mode

/-- The mode that asks for nothing. -/
def nothing : Mode := .letters ""

/-- The greatest code that can be written at all. -/
def greatestCode : Nat := Bounds.signed

/-- Whether a text is a code. -/
def isCode (text : String) : Bool :=
  !text.toList.isEmpty && text.toList.all Char.isDigit

/-- The mode that a text stands for. -/
def ofText (text : String) : Except OptionFault Mode :=
  if isCode text then
    let value := Nat.ofDigitChars 10 text.toList 0
    if value ≤ greatestCode then .ok (.code value) else .error (.codeTooLarge text)
  else
    .ok (.letters text)

/-- The text of a mode. -/
def text : Mode → String
  | .letters text => text
  | .code value => toString value

/-- The view that a mode describes. -/
def view : Mode → Except OptionFault View
  | .letters text =>
      (View.ofLetters text).mapError (.unknownLetter · text)
  | .code value =>
      match LegacyCode.view? value with
      | some view => .ok view
      | none => .error (.codeOutOfRange value LegacyCode.greatest)

end Mode

end LojbanTree
