import LojbanTree.Text.Digits

/-!
# Brackets that show their depth

Nested square brackets are hard to match by eye.  `Brackets.prettify` draws
each pair in one of four shapes that take turns from level to level, and from
the fifth level on every fourth pair carries the number of the round in
superscript, before its opening and after its closing bracket.

A text is first read as marks, one for each character: an opening or closing
bracket with its level, a closing bracket that closes nothing, or any other
character.  Drawing then needs no more than the mark.
-/

namespace LojbanTree

namespace Brackets

/-- What a character is to the nesting of a text. -/
inductive Mark where
  /-- An opening bracket below the given number of open ones. -/
  | opening (level : Nat)
  /-- The closing bracket of such an opening one. -/
  | closing (level : Nat)
  /-- A closing bracket without an opening one. -/
  | stray
  | other (char : Char)
  deriving DecidableEq, Repr

/-- The marks of a text at whose start `depth` brackets are open. -/
def marks (depth : Nat) : List Char → List Mark
  | [] => []
  | '[' :: rest => .opening depth :: marks (depth + 1) rest
  | ']' :: rest =>
      match depth with
      | 0 => .stray :: marks 0 rest
      | level + 1 => .closing level :: marks level rest
  | char :: rest => .other char :: marks depth rest

/-- The four shapes of an opening bracket. -/
def openShape (level : Nat) : Char :=
  match level % 4 with
  | 0 => '('
  | 1 => '['
  | 2 => '\x7b'
  | _ => '<'

/-- The four shapes of a closing bracket. -/
def closeShape (level : Nat) : Char :=
  match level % 4 with
  | 0 => ')'
  | 1 => ']'
  | 2 => '\x7d'
  | _ => '>'

/-- The number that the brackets of a level carry, if any. -/
def tag (level : Nat) : List Char :=
  if level % 4 = 0 then Superscript.numeral (level / 4) else []

/-- How a mark is drawn. -/
def Mark.drawn : Mark → List Char
  | .opening level => tag level ++ [openShape level]
  | .closing level => closeShape level :: tag level
  | .stray => [']']
  | .other char => [char]

/-- A text with its brackets drawn by their depth. -/
def prettify (text : String) : String :=
  String.ofList ((marks 0 text.toList).flatMap Mark.drawn)

/-- The number of closing brackets that close nothing. -/
def strays (text : String) : Nat := (marks 0 text.toList).count .stray

end Brackets

end LojbanTree
