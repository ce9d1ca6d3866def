import LojbanTree.Journal
import LojbanTree.Reduction.Treatment
import LojbanTree.Tree.Surface

/-!
# Reduction of parse trees

`View.reduce` walks a tree once from the root and treats each node as the view
demands.  A node that is deleted, flattened or replaced by a mark is settled at
once and nothing below it is visited; the others are rebuilt from what is left
of their children.  Words are carried over without a visit.

The walk gives up when it comes to a node deeper than a limit.  The root has
depth zero.
-/

namespace LojbanTree

namespace View

/-- What is known of the result when a node is entered. -/
inductive Step where
  /-- The result, without a look at the children. -/
  | settled (result : Option Tree)
  /-- The node is to be rebuilt from its children under this label. -/
  | rebuild (treatment : Treatment) (label? : Option String)
  deriving DecidableEq

/-- The label that is left of a node after its treatment. -/
def keptLabel? (view : View) (treatment : Treatment) (name? : Option String) :
    Option String :=
  if treatment = .trim then none else name?.map view.shownName

/-- A mark in place of what is below a label. -/
def marked (label? : Option String) (mark : String) : Tree :=
  match label? with
  | none => .leaf mark
  | some label => .labeled label [.leaf mark]

/-- Surface text in place of what is below a label. -/
def flattened (view : View) (label? : Option String) (text : String) : Tree :=
  match label? with
  | none => .leaf text
  | some label =>
      if text.isEmpty then .leaf label
      else if view.joinsLabels then .leaf (label ++ ":" ++ text)
      else .labeled label [.leaf text]

/--
A labeled node over at least one child or none.  A single word is joined with
the label if the view joins them; a word that has a colon already stays
apart, because the label would be read as part of it.
-/
def labeledNode (view : View) (label : String) (kept : List Tree) : Tree :=
  match kept with
  | [.leaf word] =>
      if view.joinsLabels then
        if word.toList.contains ':' then .labeled (label ++ ":") kept
        else .leaf (label ++ ":" ++ word)
      else .labeled label kept
  | _ => .labeled label kept

/--
A node made of a label and the children that are left.  A single element takes
the place of the node unless its treatment is to pass.
-/
def rebuilt (view : View) (treatment : Treatment) (label? : Option String)
    (kept : List Tree) : Option Tree :=
  match label?, kept with
  | none, [] => none
  | none, [only] => some (if treatment = .pass then .unlabeled [only] else only)
  | none, kept => some (.unlabeled kept)
  | some label, [] =>
      some (if treatment = .pass then .labeled label [] else .leaf label)
  | some label, kept => some (view.labeledNode label kept)

/-- What a view makes of a node before its children are looked at. -/
def step (view : View) (tree : Tree) : Step :=
  let treatment := view.treatment tree
  if tree.isLeaf then .settled (some tree)
  else if treatment = .delete then .settled none
  else
    let label? := view.keptLabel? treatment tree.name?
    match tree.name?.bind view.placeholder? with
    | some mark => .settled (some (marked label? mark))
    | none =>
        match treatment with
        | .flatten => .settled (some (view.flattened label? tree.surface))
        | .trimFlatten => .settled (some (.leaf tree.surface))
        | treatment => .rebuild treatment label?

/-- Enter a node: check its depth, note the visit and see what is known. -/
def enter (view : View) (limit depth : Nat) (tree : Tree) : Run Step :=
  if limit < depth then
    .fail (.tooDeep limit)
  else if tree.isEmpty then
    .done (.settled none)
  else do
    Run.write [.visit (view.treatment tree) tree.name?]
    .done (view.step tree)

mutual

/-- What is left of a node at the given depth. -/
def reduceAt (view : View) (limit depth : Nat) : Tree → Run (Option Tree)
  | .leaf text => do
      match ← view.enter limit depth (.leaf text) with
      | .settled result => .done result
      | .rebuild treatment label? => .done (view.rebuilt treatment label? [])
  | .labeled name children => do
      match ← view.enter limit depth (.labeled name children) with
      | .settled result => .done result
      | .rebuild treatment label? =>
          view.rebuilt treatment label? <$>
            reduceAll view limit (depth + 1) children
  | .unlabeled children => do
      match ← view.enter limit depth (.unlabeled children) with
      | .settled result => .done result
      | .rebuild treatment label? =>
          view.rebuilt treatment label? <$>
            reduceAll view limit (depth + 1) children

/-- What is left of children at the given depth. -/
def reduceAll (view : View) (limit depth : Nat) : List Tree → Run (List Tree)
  | [] => .done []
  | child :: rest => do
      let reduced? ←
        if child.isLeaf then .done (some child)
        else reduceAt view limit depth child
      (reduced?.toList ++ ·) <$> reduceAll view limit depth rest

end

/-- What a view leaves of a tree, if anything. -/
def reduce (view : View) (limit : Nat) (tree : Tree) : Run (Option Tree) :=
  view.reduceAt limit 0 tree

end View

end LojbanTree
