import LojbanTree.Json.Number
import LojbanTree.Text.Digits

/-!
# Reading JSON text

`Json.read` accepts exactly one value with blanks around it.  Blanks are the
space, the line break, the tabulator and the carriage return.

The readers are given fuel, two units for each character, because a value
inside an array takes one unit to enter the array and one for itself.  What is
left of it is always enough for a string, which takes one for each character.
-/

namespace LojbanTree

namespace Json

/-- Whether a character may stand between the parts of a value. -/
def isBlank (char : Char) : Bool :=
  char == ' ' || char == '\n' || char == '\t' || char == '\r'

/-- A text without the blanks at its start. -/
def dropBlanks (text : List Char) : List Char := text.dropWhile isBlank

/--
The value of four hexadecimal digits.  Four bytes are taken before they are
judged, so a text with fewer of them ends inside the string.
-/
def readUnit (text : List Char) : Reading (Nat × List Char) :=
  if byteCount (text.take 4) < 4 then
    .error (.before .endInString [])
  else
    match text with
    | first :: second :: third :: fourth :: rest =>
        match Text.hexValue? first, Text.hexValue? second, Text.hexValue? third,
            Text.hexValue? fourth with
        | some first, some second, some third, some fourth =>
            .ok (first * 4096 + second * 256 + third * 16 + fourth, rest)
        | _, _, _, _ => .error ⟨.invalidEscape, byteCount text - 4⟩
    | _ => .error ⟨.invalidEscape, byteCount text - 4⟩

/-- Whether a value is the first half of a surrogate pair. -/
def isLeading (unit : Nat) : Bool := 0xD800 ≤ unit && unit < 0xDC00

/-- Whether a value is the second half of a surrogate pair. -/
def isTrailing (unit : Nat) : Bool := 0xDC00 ≤ unit && unit < 0xE000

/-- The second half of a surrogate pair, written as another escape. -/
def readSecondHalf : List Char → Reading (Nat × List Char)
  | [] => .error (.before .endInString [])
  | '\\' :: rest =>
      match rest with
      | [] => .error (.before .endInString [])
      | 'u' :: digits => readUnit digits
      | _ => .error (.before .unfinishedPair rest)
  | rest => .error (.before .unfinishedPair rest)

/-- The character of an escape by its hexadecimal value. -/
def readHexEscape (text : List Char) : Reading (Char × List Char) := do
  let (unit, rest) ← readUnit text
  if isTrailing unit then
    .error (.after .loneSurrogate rest)
  else if isLeading unit then
    let (second, rest) ← readSecondHalf rest
    if isTrailing second then
      .ok (Char.ofNat (0x10000 + (unit - 0xD800) * 1024 + (second - 0xDC00)), rest)
    else
      .error (.after .loneSurrogate rest)
  else
    .ok (Char.ofNat unit, rest)

/-- The character of an escape, after its backslash. -/
def readEscape : List Char → Reading (Char × List Char)
  | [] => .error (.before .endInString [])
  | '"' :: rest => .ok ('"', rest)
  | '\\' :: rest => .ok ('\\', rest)
  | '/' :: rest => .ok ('/', rest)
  | 'b' :: rest => .ok ('\x08', rest)
  | 'f' :: rest => .ok ('\x0c', rest)
  | 'n' :: rest => .ok ('\n', rest)
  | 'r' :: rest => .ok ('\r', rest)
  | 't' :: rest => .ok ('\t', rest)
  | 'u' :: rest => readHexEscape rest
  | rest => .error (.before .invalidEscape rest)

/-- The characters of a string up to its closing quote. -/
def readChars : Nat → List Char → Reading (List Char × List Char)
  | 0, _ | _, [] => .error (.before .endInString [])
  | fuel + 1, char :: rest =>
      if char = '"' then
        .ok ([], rest)
      else if char = '\\' then do
        let (char, rest) ← readEscape rest
        let (chars, rest) ← readChars fuel rest
        .ok (char :: chars, rest)
      else if char.toNat < 0x20 then
        .error (.before .controlCharacter (char :: rest))
      else do
        let (chars, rest) ← readChars fuel rest
        .ok (char :: chars, rest)

/-- The string that follows an opening quote. -/
def readString (fuel : Nat) (text : List Char) : Reading (String × List Char) := do
  let (chars, rest) ← readChars fuel text
  .ok (String.ofList chars, rest)

/-- The rest of a word whose first letter was seen. -/
def readWord (value : Json) : List Char → List Char → Reading (Json × List Char)
  | [], text => .ok (value, text)
  | _ :: _, [] => .error (.before .endInValue [])
  | letter :: letters, char :: rest =>
      if char = letter then readWord value letters rest
      else .error (.before .expectedWord (char :: rest))

/-- The colon between a key and its value. -/
def readColon (text : List Char) : Reading (Unit × List Char) :=
  match dropBlanks text with
  | [] => .error (.before .endInObject [])
  | ':' :: rest => .ok ((), rest)
  | rest => .error (.before .expectedColon rest)

mutual

/-- The value at the start of a text. -/
def readValue : Nat → List Char → Reading (Json × List Char)
  | 0, _ => .error (.before .endInValue [])
  | fuel + 1, text =>
      match dropBlanks text with
      | [] => .error (.before .endInValue [])
      | 'n' :: rest => readWord .null "ull".toList rest
      | 't' :: rest => readWord (.boolean true) "rue".toList rest
      | 'f' :: rest => readWord (.boolean false) "alse".toList rest
      | '"' :: rest => do
          let (value, rest) ← readString (fuel + 1) rest
          .ok (.string value, rest)
      | '[' :: rest =>
          match dropBlanks rest with
          | [] => .error (.before .endInList [])
          | ']' :: rest => .ok (.array [], rest)
          | first => do
              let (elements, rest) ← readElements fuel first
              .ok (.array elements, rest)
      | '\x7b' :: rest =>
          match dropBlanks rest with
          | [] => .error (.before .endInObject [])
          | '\x7d' :: rest => .ok (.object [], rest)
          | '"' :: key => do
              let (members, rest) ← readMembers fuel key
              .ok (ofMembers members, rest)
          | other => .error (.before .keyNotString other)
      | char :: rest =>
          if char = '-' ∨ char.isDigit then do
            let (value, rest) ← Number.read (char :: rest)
            .ok (.number value, rest)
          else
            .error (.before .expectedValue (char :: rest))

/-- One element or more, and the bracket that ends them. -/
def readElements : Nat → List Char → Reading (List Json × List Char)
  | 0, _ => .error (.before .endInValue [])
  | fuel + 1, text => do
      let (element, rest) ← readValue fuel text
      match dropBlanks rest with
      | [] => .error (.before .endInList [])
      | ']' :: rest => .ok ([element], rest)
      | ',' :: rest =>
          match dropBlanks rest with
          | [] => .error (.before .endInValue [])
          | ']' :: rest => .error (.before .trailingComma (']' :: rest))
          | next => do
              let (elements, rest) ← readElements fuel next
              .ok (element :: elements, rest)
      | rest => .error (.before .expectedListSeparator rest)

/-- One member or more after the quote of its key, and the brace that ends them. -/
def readMembers : Nat → List Char → Reading (List (String × Json) × List Char)
  | 0, _ => .error (.before .endInValue [])
  | fuel + 1, text => do
      let (key, rest) ← readString (fuel + 1) text
      let ((), rest) ← readColon rest
      let (value, rest) ← readValue fuel rest
      match dropBlanks rest with
      | [] => .error (.before .endInObject [])
      | '\x7d' :: rest => .ok ([(key, value)], rest)
      | ',' :: rest =>
          match dropBlanks rest with
          | [] => .error (.before .endInValue [])
          | '\x7d' :: rest => .error (.before .trailingComma ('\x7d' :: rest))
          | '"' :: next => do
              let (members, rest) ← readMembers fuel next
              .ok ((key, value) :: members, rest)
          | other => .error (.before .keyNotString other)
      | rest => .error (.before .expectedObjectSeparator rest)

end

/-- The one value that a list of characters holds. -/
def readAll (text : List Char) : Except Stop Json := do
  let (value, rest) ← readValue (2 * text.length + 2) text
  match dropBlanks rest with
  | [] => .ok value
  | rest => .error (.before .trailingText rest)

/-- The value that a text holds. -/
def read (text : String) : Except Failure Json :=
  (readAll text.toList).mapError (·.inText text)

end Json

end LojbanTree
