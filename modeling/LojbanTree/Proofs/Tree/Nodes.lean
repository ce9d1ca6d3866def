import LojbanTree.Tree.Surface

/-!
# The nodes of a tree

`Tree.nodes` lists a tree and all that is below it in the order in which it is
written, so that a statement about every node is one about the members of a
list.  `Tree.induction` proves a statement about all trees from its validity
for the children of a node, whatever kind of node that is.

The surface text of a tree has no other characters than those of its leaves.
-/

namespace LojbanTree

namespace Tree

/-! ## Induction -/

mutual

/-- A statement holds of all trees if nodes inherit it from their children. -/
theorem induction {motive : Tree → Prop}
    (node : ∀ tree : Tree,
      (∀ child ∈ tree.children, motive child) → motive tree) :
    (tree : Tree) → motive tree
  | .leaf text => node (.leaf text) (by simp [children])
  | .labeled name children =>
      node (.labeled name children) (inductionAll node children)
  | .unlabeled children =>
      node (.unlabeled children) (inductionAll node children)

/-- The same for every tree of a list. -/
theorem inductionAll {motive : Tree → Prop}
    (node : ∀ tree : Tree,
      (∀ child ∈ tree.children, motive child) → motive tree) :
    (trees : List Tree) → ∀ tree ∈ trees, motive tree
  | [] => by simp
  | head :: tail =>
      List.forall_mem_cons.mpr
        ⟨induction node head, inductionAll node tail⟩

end

/-! ## All nodes of a tree -/

mutual

/-- A tree and all nodes below it. -/
def nodes : Tree → List Tree
  | .leaf text => [.leaf text]
  | .labeled name children => .labeled name children :: nodesAll children
  | .unlabeled children => .unlabeled children :: nodesAll children

/-- All nodes of several trees. -/
def nodesAll : List Tree → List Tree
  | [] => []
  | tree :: rest => nodes tree ++ nodesAll rest

end

theorem nodes_eq_cons (tree : Tree) :
    tree.nodes = tree :: nodesAll tree.children := by
  cases tree <;> simp [nodes, children, nodesAll]

theorem mem_nodesAll (node : Tree) (trees : List Tree) :
    node ∈ nodesAll trees ↔ ∃ tree ∈ trees, node ∈ tree.nodes := by
  induction trees with
  | nil => simp [nodesAll]
  | cons head tail inTail => simp [nodesAll, inTail]

/-- The nodes of a tree are the tree itself and the nodes of its children. -/
theorem mem_nodes_iff (node tree : Tree) :
    node ∈ tree.nodes ↔
      node = tree ∨ ∃ child ∈ tree.children, node ∈ child.nodes := by
  rw [nodes_eq_cons, List.mem_cons, mem_nodesAll]

theorem self_mem_nodes (tree : Tree) : tree ∈ tree.nodes :=
  (mem_nodes_iff tree tree).mpr (.inl rfl)

/-- The nodes of a node of a tree are nodes of that tree. -/
theorem mem_nodes_trans {tree node lower : Tree} (member : node ∈ tree.nodes)
    (below : lower ∈ node.nodes) : lower ∈ tree.nodes := by
  induction tree using Tree.induction with
  | node tree inChildren =>
      apply (mem_nodes_iff lower tree).mpr
      rcases (mem_nodes_iff node tree).mp member
        with rfl | ⟨child, isChild, inChild⟩
      · exact (mem_nodes_iff lower node).mp below
      · exact .inr ⟨child, isChild, inChildren child isChild inChild⟩

theorem mem_nodes_of_mem_children {tree node child : Tree}
    (member : node ∈ tree.nodes)
    (isChild : child ∈ node.children) : child ∈ tree.nodes :=
  mem_nodes_trans member
    ((mem_nodes_iff child node).mpr (.inr ⟨child, isChild, child.self_mem_nodes⟩))

@[simp]
theorem mem_nodes_leaf (node : Tree) (text : String) :
    node ∈ (leaf text).nodes ↔ node = .leaf text := by
  simp [nodes]

/-- An inner node is not part of a word. -/
theorem isLeaf_of_mem_nodes {tree node : Tree} (member : node ∈ tree.nodes)
    (inner : node.isLeaf = false) : tree.isLeaf = false := by
  cases tree with
  | leaf text =>
      obtain rfl := (mem_nodes_leaf node text).mp member
      exact inner
  | labeled name children => rfl
  | unlabeled children => rfl

theorem isLeaf_of_mem_children {tree child : Tree}
    (isChild : child ∈ tree.children) :
    tree.isLeaf = false := by
  cases tree with
  | leaf text => simp [children] at isChild
  | labeled name children => rfl
  | unlabeled children => rfl

/-- What holds of every node holds of the root and of every node below. -/
theorem forall_mem_nodes_iff (property : Tree → Prop) (tree : Tree) :
    (∀ node ∈ tree.nodes, property node) ↔
      property tree ∧
        ∀ child ∈ tree.children, ∀ node ∈ child.nodes, property node := by
  constructor
  · intro everywhere
    constructor
    · exact everywhere tree ((mem_nodes_iff tree tree).mpr (.inl rfl))
    · intro child isChild node below
      exact everywhere node
        ((mem_nodes_iff node tree).mpr (.inr ⟨child, isChild, below⟩))
  · rintro ⟨atRoot, atChildren⟩ node member
    rcases (mem_nodes_iff node tree).mp member with rfl | ⟨child, isChild, below⟩
    · exact atRoot
    · exact atChildren child isChild node below

/-! ## The words of several trees -/

@[simp]
theorem spokenAll_nil : spokenAll [] = "" := by
  simp [spokenAll]

@[simp]
theorem spokenAll_append (left right : List Tree) :
    spokenAll (left ++ right) = spokenAll left ++ spokenAll right := by
  induction left with
  | nil => simp [spokenAll]
  | cons tree rest inRest => simp [spokenAll, inRest, String.append_assoc]

/-- The words of one tree are those of the list that holds it alone. -/
@[simp]
theorem spokenAll_singleton (tree : Tree) : spokenAll [tree] = tree.spoken := by
  simp [spokenAll]

/-- What is spoken of several trees has the characters of each of them. -/
theorem mem_spokenAll (char : Char) (trees : List Tree) :
    char ∈ (spokenAll trees).toList ↔
      ∃ tree ∈ trees, char ∈ tree.spoken.toList := by
  induction trees with
  | nil => simp [spokenAll]
  | cons head tail inTail => simp [spokenAll, inTail]

/-- A character of the surface text occurs in some leaf. -/
theorem exists_leaf_of_mem_spoken (char : Char) (tree : Tree)
    (spoken : char ∈ tree.spoken.toList) :
    ∃ text, .leaf text ∈ tree.nodes ∧ char ∈ text.toList := by
  induction tree using Tree.induction with
  | node tree below =>
      have fromChildren (inChildren :
          ∃ child ∈ tree.children, char ∈ child.spoken.toList) :
          ∃ text, .leaf text ∈ tree.nodes ∧ char ∈ text.toList := by
        obtain ⟨child, isChild, inChild⟩ := inChildren
        obtain ⟨text, isLeaf, inText⟩ := below child isChild inChild
        exact ⟨text,
          (mem_nodes_iff _ _).mpr (.inr ⟨child, isChild, isLeaf⟩), inText⟩
      cases tree with
      | leaf text => exact ⟨text, by simp [nodes], spoken⟩
      | labeled name children =>
          exact fromChildren ((mem_spokenAll char children).mp spoken)
      | unlabeled children =>
          exact fromChildren ((mem_spokenAll char children).mp spoken)

end Tree

end LojbanTree
