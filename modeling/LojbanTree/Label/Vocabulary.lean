/-!
# Labels with a fixed meaning

Besides the word classes, a few labels of the grammar are treated specially:
words whose letters the morphology took apart, blank space between words, and
the main parts of a sentence.
-/

namespace LojbanTree

namespace Label

/-- Labels of words that the grammar takes apart letter by letter. -/
def morphology : List String :=
  ["cmevla", "gismu", "lujvo", "fuhivla", "ga_clause", "gu_clause"]

/-- Labels of the space between words. -/
def spaces : List String := ["spaces", "initial_spaces"]

/-- Labels of the main parts of a sentence. -/
def mainParts : List String := ["prenex", "sentence", "selbri", "sumti"]

/-- The short names under which labels are shown once a tree is trimmed. -/
def displayNames : List (String × String) :=
  [ ("cmene", "C"), ("cmevla", "C"), ("gismu", "G"), ("lujvo", "L"),
    ("fuhivla", "Z"), ("prenex", "PRENEX"), ("sentence", "BRIDI"),
    ("selbri", "SELBRI"), ("sumti", "SUMTI") ]

/-- What stands for the space between two words when spaces are shown. -/
def spaceMark : String := "_"

/-- Whether a label is one of the given names, letter for letter. -/
def among (name : String) (names : List String) : Bool := names.contains name

@[simp]
theorem among_iff (name : String) (names : List String) :
    among name names = true ↔ name ∈ names := by
  simp [among]

end Label

end LojbanTree
