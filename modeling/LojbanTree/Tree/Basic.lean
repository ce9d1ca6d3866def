/-!
# Parse trees

A parse tree has words at its leaves.  An inner node is either labeled with
the name of a grammar rule or an unlabeled sequence, and either may have no
children at all.

A node also has an array form, in which a label takes the first slot.  Two
different trees can share an array form: a labeled node, and an unlabeled one
whose first child is a leaf with the text of that label.
-/

namespace LojbanTree

/-- A parse tree over words. -/
inductive Tree where
  /-- A word, or another terminal value. -/
  | leaf (text : String)
  /-- A node that carries the name of a grammar rule. -/
  | labeled (name : String) (children : List Tree)
  /-- A sequence without a name. -/
  | unlabeled (children : List Tree)
  deriving Repr, Inhabited

namespace Tree

/-- The sequence with nothing in it. -/
def empty : Tree := .unlabeled []

/-- The label of a node, if it has one. -/
def name? : Tree → Option String
  | .labeled name _ => some name
  | .leaf _ | .unlabeled _ => none

/-- The nodes directly below a node. -/
def children : Tree → List Tree
  | .leaf _ => []
  | .labeled _ children | .unlabeled children => children

/-- Whether a tree is a single word. -/
def isLeaf : Tree → Bool
  | .leaf _ => true
  | .labeled _ _ | .unlabeled _ => false

/-- Whether a tree is the sequence with nothing in it. -/
def isEmpty : Tree → Bool
  | .unlabeled [] => true
  | _ => false

/--
The number of slots that a node takes in array form: one for each child, and
one for the label.  A leaf takes one.
-/
def arity : Tree → Nat
  | .leaf _ => 1
  | .labeled _ children => children.length + 1
  | .unlabeled children => children.length

@[simp]
theorem isEmpty_iff (tree : Tree) : tree.isEmpty = true ↔ tree = .empty := by
  cases tree with
  | leaf _ => simp [isEmpty, empty]
  | labeled _ _ => simp [isEmpty, empty]
  | unlabeled children => cases children <;> simp [isEmpty, empty]

theorem isLeaf_iff (tree : Tree) :
    tree.isLeaf = true ↔ ∃ text, tree = .leaf text := by
  cases tree <;> simp [isLeaf]

mutual

/-- Whether two trees are the same. -/
def same : Tree → Tree → Bool
  | .leaf text, .leaf text' => text == text'
  | .labeled name children, .labeled name' children' =>
      name == name' && sameAll children children'
  | .unlabeled children, .unlabeled children' => sameAll children children'
  | _, _ => false

/-- Whether two lists hold the same trees in the same order. -/
def sameAll : List Tree → List Tree → Bool
  | [], [] => true
  | tree :: rest, tree' :: rest' => same tree tree' && sameAll rest rest'
  | _, _ => false

end

mutual

theorem same_iff : (left right : Tree) → (same left right = true ↔ left = right)
  | .leaf _, .leaf _ => by simp [same]
  | .labeled name children, .labeled name' children' => by
      simp [same, sameAll_iff children children']
  | .unlabeled children, .unlabeled children' => by
      simp [same, sameAll_iff children children']
  | .leaf _, .labeled _ _ => by simp [same]
  | .leaf _, .unlabeled _ => by simp [same]
  | .labeled _ _, .leaf _ => by simp [same]
  | .labeled _ _, .unlabeled _ => by simp [same]
  | .unlabeled _, .leaf _ => by simp [same]
  | .unlabeled _, .labeled _ _ => by simp [same]

theorem sameAll_iff :
    (left right : List Tree) → (sameAll left right = true ↔ left = right)
  | [], [] => by simp [sameAll]
  | [], _ :: _ => by simp [sameAll]
  | _ :: _, [] => by simp [sameAll]
  | tree :: rest, tree' :: rest' => by
      simp [sameAll, same_iff tree tree', sameAll_iff rest rest']

end

instance : DecidableEq Tree := fun left right =>
  decidable_of_iff _ (same_iff left right)

end Tree

end LojbanTree
