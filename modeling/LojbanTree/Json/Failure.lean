/-!
# Failures of reading JSON

A failure has a cause and a place in the text.  The line counts from one; the
column counts the bytes of the line that were read, an offending byte
included, so it is zero right after a line break.
-/

namespace LojbanTree

namespace Json

/-- Why a text is not JSON. -/
inductive Cause where
  | endInValue
  | endInList
  | endInObject
  | endInString
  | expectedValue
  | expectedWord
  | expectedListSeparator
  | expectedObjectSeparator
  | expectedColon
  | trailingComma
  | trailingText
  | keyNotString
  | invalidNumber
  | numberTooLarge
  | invalidEscape
  | unfinishedPair
  | loneSurrogate
  | controlCharacter
  deriving DecidableEq, Repr

namespace Cause

/-- A cause in words. -/
def message : Cause → String
  | .endInValue => "EOF while parsing a value"
  | .endInList => "EOF while parsing a list"
  | .endInObject => "EOF while parsing an object"
  | .endInString => "EOF while parsing a string"
  | .expectedValue => "expected value"
  | .expectedWord => "expected ident"
  | .expectedListSeparator => "expected `,` or `]`"
  | .expectedObjectSeparator => "expected `,` or `\x7d`"
  | .expectedColon => "expected `:`"
  | .trailingComma => "trailing comma"
  | .trailingText => "trailing characters"
  | .keyNotString => "key must be a string"
  | .invalidNumber => "invalid number"
  | .numberTooLarge => "number out of range"
  | .invalidEscape => "invalid escape"
  | .unfinishedPair => "unexpected end of hex escape"
  | .loneSurrogate => "lone leading surrogate in hex escape"
  | .controlCharacter =>
      "control character (\\u0000-\\u001F) found while parsing a string"

end Cause

/-- A cause and the place where reading ended. -/
structure Failure where
  cause : Cause
  line : Nat
  column : Nat
  deriving DecidableEq, Repr

namespace Failure

/-- A failure in words. -/
def message (failure : Failure) : String :=
  s!"{failure.cause.message} at line {failure.line} column {failure.column}"

/-- The byte that ends a line. -/
def lineBreak : UInt8 := 10

/-- The failure after the given bytes were read. -/
def after (cause : Cause) (bytes : List UInt8) : Failure where
  cause := cause
  line := bytes.count lineBreak + 1
  column := (bytes.reverse.takeWhile (· != lineBreak)).length

end Failure

/-- A cause and the number of bytes that were not read yet. -/
structure Stop where
  cause : Cause
  unread : Nat
  deriving DecidableEq, Repr

/-- The number of bytes that characters take. -/
def byteCount (chars : List Char) : Nat :=
  chars.foldl (fun count char => count + char.utf8Size) 0

namespace Stop

/--
Stop before the given rest.  Its first byte, if there is one, counts as read
because it is the offending one.
-/
def before (cause : Cause) (rest : List Char) : Stop := ⟨cause, byteCount rest - 1⟩

/-- Stop before the given rest, where everything before it is at fault. -/
def after (cause : Cause) (rest : List Char) : Stop := ⟨cause, byteCount rest⟩

/-- The failure that a stop amounts to in a text. -/
def inText (stop : Stop) (text : String) : Failure :=
  let bytes := text.toUTF8.toList
  .after stop.cause (bytes.take (bytes.length - stop.unread))

end Stop

end Json

end LojbanTree
