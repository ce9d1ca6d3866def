import LojbanTree.Text.Digits
import LojbanTree.Text.Padding

/-!
# Strings in TOML

A basic string stands between double quotes and has escapes; a literal string
stands between single quotes and has none.  Either may take several lines
between triple quotes.
-/

namespace LojbanTree

namespace Toml

/-- Whether a character may stand in a string or a comment as it is. -/
def isPlain (char : Char) : Bool :=
  char == '\t' || (0x20 ≤ char.toNat && char.toNat != 0x7f)

/-- The character with the code point that hexadecimal digits spell. -/
def charOfHex? (digits : List Char) : Option Char := do
  let values ← digits.mapM Text.hexValue?
  let value := values.foldl (fun value digit => value * 16 + digit) 0
  if value.isValidChar then some (Char.ofNat value) else none

/-- The character of an escape that has so many hexadecimal digits. -/
def hexEscape? (count : Nat) (text : List Char) : Option (Char × List Char) :=
  let digits := text.take count
  if digits.length = count then
    (charOfHex? digits).map fun char => (char, text.drop count)
  else
    none

/-- The character of an escape, after its backslash. -/
def escape? : List Char → Option (Char × List Char)
  | 'b' :: rest => some ('\x08', rest)
  | 't' :: rest => some ('\t', rest)
  | 'n' :: rest => some ('\n', rest)
  | 'f' :: rest => some ('\x0c', rest)
  | 'r' :: rest => some ('\r', rest)
  | '"' :: rest => some ('"', rest)
  | '\\' :: rest => some ('\\', rest)
  | 'u' :: rest => hexEscape? 4 rest
  | 'U' :: rest => hexEscape? 8 rest
  | _ => none

/-- The characters of a basic string up to its closing quote. -/
def basic? : Nat → List Char → Option (List Char × List Char)
  | 0, _ | _, [] => none
  | fuel + 1, char :: rest =>
      if char = '"' then
        some ([], rest)
      else if char = '\\' then do
        let (char, rest) ← escape? rest
        let (chars, rest) ← basic? fuel rest
        some (char :: chars, rest)
      else if isPlain char then do
        let (chars, rest) ← basic? fuel rest
        some (char :: chars, rest)
      else
        none

/-- The characters of a literal string up to its closing quote. -/
def literal? (text : List Char) : Option (List Char × List Char) :=
  let inside (char : Char) := isPlain char && char != '\''
  match text.dropWhile inside with
  | '\'' :: rest => some (text.takeWhile inside, rest)
  | _ => none

/-- A text behind the line break at its start, if there is one. -/
def lineBreak? : List Char → Option (List Char)
  | '\n' :: rest => some rest
  | '\r' :: '\n' :: rest => some rest
  | _ => none

/-- A text behind the blanks and line breaks at its start. -/
def dropLines : Nat → List Char → List Char
  | 0, text => text
  | fuel + 1, text =>
      let text := text.dropWhile Text.isSpacing
      match lineBreak? text with
      | some rest => dropLines fuel rest
      | none => text

/--
The characters of a string between triple quotes.  Up to two quotes may stand
before the closing three.  Escapes count if `escapes` holds; a backslash at
the end of a line joins the line with the next one that is not blank.
-/
def lines? (quote : Char) (escapes : Bool) :
    Nat → List Char → Option (List Char × List Char)
  | 0, _ | _, [] => none
  | fuel + 1, char :: rest =>
      let quotes := (char :: rest).takeWhile (· == quote)
      if 3 ≤ quotes.length then
        let count := min quotes.length 5
        some (quotes.take (count - 3), (char :: rest).drop count)
      else if escapes ∧ char = '\\' then
        match lineBreak? (rest.dropWhile Text.isSpacing) with
        | some next => lines? quote escapes fuel (dropLines next.length next)
        | none => do
            let (char, rest) ← escape? rest
            let (chars, rest) ← lines? quote escapes fuel rest
            some (char :: chars, rest)
      else
        match lineBreak? (char :: rest) with
        | some rest => do
            let (chars, rest) ← lines? quote escapes fuel rest
            some ('\n' :: chars, rest)
        | none =>
            if isPlain char then do
              let (chars, rest) ← lines? quote escapes fuel rest
              some (char :: chars, rest)
            else
              none

/-- The string on one line at the start of a text. -/
def line? : List Char → Option (String × List Char)
  | '"' :: rest => (basic? (rest.length + 1) rest).map fun (chars, rest) =>
      (String.ofList chars, rest)
  | '\'' :: rest =>
      (literal? rest).map fun (chars, rest) => (String.ofList chars, rest)
  | _ => none

/-- The string at the start of a text, on one line or several. -/
def string? (text : List Char) : Option (String × List Char) :=
  let several (quote : Char) (rest : List Char) :=
    let rest := (lineBreak? rest).getD rest
    (lines? quote (quote == '"') (rest.length + 1) rest).map fun (chars, rest) =>
      (String.ofList chars, rest)
  match text with
  | '"' :: '"' :: '"' :: rest => several '"' rest
  | '\'' :: '\'' :: '\'' :: rest => several '\'' rest
  | _ => line? text

end Toml

end LojbanTree
