/-!
# Views

A view says which parts of a parse tree are shown and how.  It is a choice of
eight independent switches.
-/

namespace LojbanTree

/-- What of a parse tree is shown. -/
structure View where
  /-- Words keep the structure that the morphology found in them. -/
  keepMorphology : Bool
  /-- The space between words is shown. -/
  showSpaces : Bool
  /-- Terminators that were not spoken are shown. -/
  showTerminators : Bool
  /-- Word class names are shown. -/
  showWordClasses : Bool
  /-- Labels are dropped and single elements take the place of their node. -/
  trim : Bool
  /-- The main parts of a sentence keep their labels. -/
  showMainParts : Bool
  /-- The tree is written as JSON when no format is chosen. -/
  json : Bool
  /-- A name and its only value stay apart. -/
  plainLeaves : Bool
  deriving DecidableEq, Repr

namespace View

/-- Whether a name and its only value are joined into one word. -/
def joinsLabels (view : View) : Bool :=
  (view.showMainParts || view.showWordClasses) && !view.plainLeaves

end View

end LojbanTree
