import LojbanTree.Label.Vocabulary
import LojbanTree.Label.WordClass
import LojbanTree.Tree.Basic
import LojbanTree.View.Basic

/-!
# How a node is treated

A view assigns a treatment to every node.  Two questions decide it: whether
the node is flattened to its surface text, and whether it is trimmed, that is,
loses its label.  Deletion goes before both.

| flattened | trimmed | treatment                                            |
|-----------|---------|------------------------------------------------------|
| yes       | yes     | `trimFlatten`                                        |
| yes       | no      | `flatten`                                            |
| no        | yes     | `trim`                                               |
| no        | no      | `unbox` for one slot in a trimmed tree, else `pass`  |

Space that is shown is written as a mark in place of its node, and the labels of
a trimmed tree are shown under short names.
-/

namespace LojbanTree

/-- What happens to a node. -/
inductive Treatment where
  /-- The node and everything below it disappears. -/
  | delete
  /-- The label goes, and a single child that is left takes the node's place. -/
  | trim
  /-- The surface text takes the place of the children. -/
  | flatten
  /-- The surface text takes the place of the node. -/
  | trimFlatten
  /-- The only element takes the place of the node. -/
  | unbox
  /-- The node stays. -/
  | pass
  deriving DecidableEq, Repr

namespace Treatment

/-- The name of a treatment. -/
def name : Treatment → String
  | .delete => "DEL"
  | .trim => "TRIM"
  | .flatten => "FLAT"
  | .trimFlatten => "TRIMFLAT"
  | .unbox => "UNBOX"
  | .pass => "PASS"

/-- The treatment with a name, if there is one. -/
def ofName? (name : String) : Option Treatment :=
  [delete, trim, flatten, trimFlatten, unbox, pass].find? fun treatment =>
    treatment.name == name

/-- A name is read back as the treatment that has it, and no other name is read. -/
theorem ofName?_eq_some_iff (name : String) (treatment : Treatment) :
    ofName? name = some treatment ↔ treatment.name = name := by
  constructor
  · intro found
    rw [ofName?] at found
    exact eq_of_beq (List.find?_some found :)
  · rintro rfl
    cases treatment <;> decide

end Treatment

namespace Tree

/-- Whether a node takes exactly one slot. -/
def isBare (tree : Tree) : Bool := tree.arity == 1

/-- Whether a node carries the name of a word class. -/
def hasWordClass (tree : Tree) : Bool := tree.name?.any Label.isWordClass

/-- Whether a node carries one of the given labels. -/
def labelAmong (tree : Tree) (names : List String) : Bool :=
  tree.name?.any fun name => Label.among name names

end Tree

namespace View

/-- Whether a node is hidden space or a hidden terminator without a word. -/
def deletes (view : View) (tree : Tree) : Bool :=
  (!view.showSpaces && tree.labelAmong Label.spaces) ||
    (!view.showTerminators && tree.hasWordClass && tree.isBare)

/-- Whether a node is a word whose structure is not kept. -/
def flattens (view : View) (tree : Tree) : Bool :=
  !view.keepMorphology && (tree.hasWordClass || tree.labelAmong Label.morphology)

/-- The labels that a view keeps in a trimmed tree, word class names apart. -/
def keptLabels (view : View) : List String :=
  (if view.showWordClasses then Label.morphology else []) ++
    (if view.showMainParts then Label.mainParts else [])

/-- Whether a node loses its label. -/
def trims (view : View) (tree : Tree) : Bool :=
  view.trim &&
    !(view.showTerminators && tree.hasWordClass && tree.isBare) &&
    !(view.showWordClasses && tree.hasWordClass) &&
    !tree.labelAmong view.keptLabels

/-- The treatment of a node. -/
def treatment (view : View) (tree : Tree) : Treatment :=
  if view.deletes tree then .delete
  else
    match view.flattens tree, view.trims tree with
    | true, true => .trimFlatten
    | true, false => .flatten
    | false, true => .trim
    | false, false => if view.trim && tree.isBare then .unbox else .pass

/-! ## What is written in place of a node or a label -/

/-- The mark that stands for what is below a label, if there is one. -/
def placeholder? (view : View) (name : String) : Option String :=
  if view.showSpaces && Label.among name Label.spaces then
    some Label.spaceMark
  else
    none

/-- The short name of a label, if it has one in this view. -/
def shortName? (view : View) (name : String) : Option String :=
  if view.trim then Label.displayNames.lookup name else none

/-- The name under which a label is shown. -/
def shownName (view : View) (name : String) : String :=
  (view.shortName? name).getD name

end View

end LojbanTree
