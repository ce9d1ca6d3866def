import LojbanTree.Text.Brackets

/-!
# The bracketed reading form

The reading form of a tree starts from its compact array form.  The quotes
are dropped, the commas become spaces and the brackets are drawn by their
depth: `["KOhA:mi",["G:klama"]]` becomes `(KOhA:mi [G:klama])`.

If labels are to be told from words, a label that is followed by a nested node
gets a colon: `[sumti,[` becomes `[sumti: [`.  The colons are set in one pass
from left to right, and the bracket behind a new colon does not itself start
a label.
-/

namespace LojbanTree

namespace Bracketed

/-- Whether a character may occur in a label that gets a colon. -/
def isLabelChar (char : Char) : Bool :=
  char.isAlphanum || char == '_' || char == '-'

/-- What has been read of a label. -/
inductive Progress where
  /-- No label can begin here. -/
  | outside
  /-- An opening bracket was just read. -/
  | opened
  /-- An opening bracket and at least one letter of a label were read. -/
  | named
  deriving DecidableEq, Repr

/-- What has been read after one more character that is no opening bracket. -/
def Progress.next (progress : Progress) (char : Char) : Progress :=
  match progress with
  | .outside => .outside
  | .opened | .named => if isLabelChar char then .named else .outside

/-- A text with colons after its labels. -/
def labelColons : Progress → List Char → List Char
  | _, [] => []
  | .named, ',' :: '[' :: rest => ':' :: ' ' :: '[' :: labelColons .outside rest
  | progress, char :: rest =>
      char :: labelColons (if char = '[' then .opened else progress.next char) rest

/-- A text without quotes. -/
def withoutQuotes (text : List Char) : List Char := text.filter (· != '"')

/-- A text with spaces for commas. -/
def spaced (text : List Char) : List Char :=
  text.map fun char => if char = ',' then ' ' else char

/-- The reading form before its brackets are drawn. -/
def flat (colons : Bool) (json : String) : String :=
  let text := withoutQuotes json.toList
  String.ofList (spaced (if colons then labelColons .outside text else text))

/-- The reading form of an array form. -/
def ofJsonText (colons : Bool) (json : String) : String :=
  Brackets.prettify (flat colons json)

/-- The number of closing brackets of a reading form that close nothing. -/
def strays (colons : Bool) (json : String) : Nat :=
  Brackets.strays (flat colons json)

end Bracketed

end LojbanTree
