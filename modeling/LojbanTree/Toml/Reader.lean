import LojbanTree.Toml.Moment
import LojbanTree.Toml.Node
import LojbanTree.Toml.Quoted
import LojbanTree.Toml.Scalar

/-!
# Reading TOML

A document is a sequence of lines: a header that opens a table, a key with its
value, or nothing but a comment.  Only values inside brackets and strings
between triple quotes reach beyond their line.

Neither brackets nor the parts of a key may be nested deeper than `deepest`.
A date or a time is read as the text that stands for it.
-/

namespace LojbanTree

namespace Toml

/--
A text behind blanks, line breaks and comments, of which the first may have
begun already.
-/
def dropVoid? : Bool → List Char → Option (List Char)
  | _, [] => some []
  | comment, '\r' :: rest =>
      if rest.head? = some '\n' then dropVoid? comment rest else none
  | _, '\n' :: rest => dropVoid? false rest
  | true, char :: rest => if isPlain char then dropVoid? true rest else none
  | false, char :: rest =>
      if Text.isSpacing char then dropVoid? false rest
      else if char = '#' then dropVoid? true rest
      else some (char :: rest)

/-- A text behind what may follow the last part of a line, and its end. -/
def dropLineEnd? (text : List Char) : Option (List Char) :=
  match text.dropWhile Text.isSpacing with
  | [] => some []
  | '#' :: rest =>
      match rest.dropWhile isPlain with
      | [] => some []
      | rest => lineBreak? rest
  | rest => lineBreak? rest

/-- A text behind a character and the blanks around it. -/
def dropMark? (mark : Char) (text : List Char) : Option (List Char) :=
  match text.dropWhile Text.isSpacing with
  | char :: rest =>
      if char = mark then some (rest.dropWhile Text.isSpacing) else none
  | [] => none

/-- Whether a character may stand in a key without quotes. -/
def isKeyChar (char : Char) : Bool := char.isAlphanum || char == '_' || char == '-'

/-- One key, with quotes or without. -/
def simpleKey? (text : List Char) : Option (String × List Char) :=
  match text.takeWhile isKeyChar with
  | [] => line? text
  | key => some (String.ofList key, text.dropWhile isKeyChar)

/-- At most so many keys with points between them. -/
def keys? : Nat → List Char → Option (List String × List Char)
  | 0, _ => none
  | count + 1, text => do
      let (first, rest) ← simpleKey? (text.dropWhile Text.isSpacing)
      match dropMark? '.' rest with
      | none => some ([first], rest)
      | some next => do
          let (others, rest) ← keys? count next
          some (first :: others, rest)

/--
The greatest number of parts of a key, and of brackets that are open at once.
-/
def deepest : Nat := 79

/-- A key, which may have several parts. -/
def key? (text : List Char) : Option (List String × List Char) :=
  keys? deepest text

mutual

/--
The value at the start of a text; `room` bounds the lists and tables around its
parts.
-/
def value? : Nat → Nat → List Char → Option (Setting × List Char)
  | 0, _, _ => none
  | fuel + 1, room, text =>
      match room, text with
      | 0, '[' :: _ | 0, '\x7b' :: _ => none
      | room + 1, '[' :: rest => do
          let (items, rest) ← items? fuel room rest
          some (.list items, rest)
      | room + 1, '\x7b' :: rest =>
          match rest.dropWhile Text.isSpacing with
          | '\x7d' :: rest => some (.table [], rest)
          | rest => do
              let (entries, rest) ← pairs? fuel room [] rest
              some (.table (Node.settings entries), rest)
      | _, '"' :: _ | _, '\'' :: _ =>
          (string? text).map fun (content, rest) => (.text content, rest)
      | _, _ =>
          match moment? text with
          | some (moment, rest) => some (.text moment.text, rest)
          | none => (scalar? (text.takeWhile isWordChar)).map fun scalar =>
              (scalar, text.dropWhile isWordChar)

/-- The items of a list up to its closing bracket. -/
def items? : Nat → Nat → List Char → Option (List Setting × List Char)
  | 0, _, _ => none
  | fuel + 1, room, text => do
      match ← dropVoid? false text with
      | ']' :: rest => some ([], rest)
      | text => do
          let (item, rest) ← value? fuel room text
          match ← dropVoid? false rest with
          | ']' :: rest => some ([item], rest)
          | ',' :: rest => do
              let (items, rest) ← items? fuel room rest
              some (item :: items, rest)
          | _ => none

/-- The pairs of a table in braces up to its closing brace. -/
def pairs? : Nat → Nat → Entries → List Char → Option (Entries × List Char)
  | 0, _, _, _ => none
  | fuel + 1, room, entries, text => do
      let (key, rest) ← key? text
      let (setting, rest) ← value? fuel room (← dropMark? '=' rest)
      let entries ← entries.set? setting key
      match rest.dropWhile Text.isSpacing with
      | '\x7d' :: rest => some (entries, rest)
      | ',' :: rest => pairs? fuel room entries rest
      | _ => none

end

/-- The document that follows from one that was read so far and more lines. -/
def lines : Nat → Document → List Char → Option Document
  | 0, _, _ => none
  | fuel + 1, document, text => do
      match ← dropVoid? false text with
      | [] => some document
      | '[' :: '[' :: rest => do
          let (path, rest) ← key? rest
          match rest.dropWhile Text.isSpacing with
          | ']' :: ']' :: rest => do
              let document ← document.header? Entries.openItem? path
              lines fuel document (← dropLineEnd? rest)
          | _ => none
      | '[' :: rest => do
          let (path, rest) ← key? rest
          match rest.dropWhile Text.isSpacing with
          | ']' :: rest => do
              let document ← document.header? Entries.openTable? path
              lines fuel document (← dropLineEnd? rest)
          | _ => none
      | text => do
          let (key, rest) ← key? text
          let (setting, rest) ← value? (2 * text.length) deepest
            (← dropMark? '=' rest)
          let document ← document.set? key setting
          lines fuel document (← dropLineEnd? rest)

/-- The entries of a document.  A byte order mark at its start is passed over. -/
def read? (text : String) : Option (List (String × Setting)) := do
  let chars := text.toList
  let chars := if chars.head? = some '\ufeff' then chars.drop 1 else chars
  let document ← lines (chars.length + 1) .empty chars
  some (Node.settings document.entries)

end Toml

end LojbanTree
