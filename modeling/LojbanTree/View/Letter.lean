import LojbanTree.View.Basic

/-!
# Views written as letters

Each switch of a view has a letter.  A text of such letters, in any order and
with repetitions, describes a view; `View.letters` writes each letter at most
once and in the order of `Letter.all`, so every view has one canonical text.

`R` is the one letter that turns a switch off: without it a tree is trimmed.
-/

namespace LojbanTree

/-- The letters of a view. -/
inductive Letter where
  | morphology
  | spaces
  | terminators
  | wordClasses
  | raw
  | mainParts
  | json
  | plainLeaves
  deriving DecidableEq, Repr

namespace Letter

/-- All letters, in the order in which they are listed and written. -/
def all : List Letter :=
  [ .morphology, .spaces, .terminators, .wordClasses,
    .raw, .mainParts, .json, .plainLeaves ]

/-- The character of a letter. -/
def char : Letter → Char
  | .morphology => 'M'
  | .spaces => 'S'
  | .terminators => 'T'
  | .wordClasses => 'C'
  | .raw => 'R'
  | .mainParts => 'N'
  | .json => 'J'
  | .plainLeaves => '!'

/-- What a letter asks for, in words. -/
def description : Letter → String
  | .morphology => "Keep morphology"
  | .spaces => "Show spaces"
  | .terminators => "Show terminators"
  | .wordClasses => "Show word classes (selmaho)"
  | .raw => "Raw output, do not trim the parse tree"
  | .mainParts => "Show main node labels"
  | .json => "JSON output"
  | .plainLeaves => "Do not prefix leaves with their node name"

/-- Whether a view has what a letter asks for. -/
def holds (view : View) : Letter → Bool
  | .morphology => view.keepMorphology
  | .spaces => view.showSpaces
  | .terminators => view.showTerminators
  | .wordClasses => view.showWordClasses
  | .raw => !view.trim
  | .mainParts => view.showMainParts
  | .json => view.json
  | .plainLeaves => view.plainLeaves

/-- The characters that may occur in a text of letters. -/
def alphabet : List Char := all.map char

end Letter

namespace View

/-- The view in which exactly the given letters hold. -/
def ofLetterSet (has : Letter → Bool) : View where
  keepMorphology := has .morphology
  showSpaces := has .spaces
  showTerminators := has .terminators
  showWordClasses := has .wordClasses
  trim := !has .raw
  showMainParts := has .mainParts
  json := has .json
  plainLeaves := has .plainLeaves

/-- The canonical text of a view. -/
def letters (view : View) : String :=
  String.ofList ((Letter.all.filter (Letter.holds view)).map Letter.char)

/--
The view that a text of letters describes.  A text with any other character
describes none, and the first such character is reported.
-/
def ofLetters (text : String) : Except Char View :=
  match text.toList.find? fun char => !Letter.alphabet.contains char with
  | some stranger => .error stranger
  | none => .ok (ofLetterSet fun letter => text.toList.contains letter.char)

@[simp]
theorem holds_ofLetterSet (has : Letter → Bool) (letter : Letter) :
    letter.holds (ofLetterSet has) = has letter := by
  cases letter <;> simp [Letter.holds, ofLetterSet]

@[simp]
theorem ofLetterSet_holds (view : View) :
    ofLetterSet (Letter.holds view) = view := by
  simp [ofLetterSet, Letter.holds]

end View

end LojbanTree
