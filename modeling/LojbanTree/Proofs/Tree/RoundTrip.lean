import LojbanTree.Proofs.Json.Arrays
import LojbanTree.Proofs.Tree.Nodes
import LojbanTree.Tree.Encoding

/-!
# Reading a tree back from its array form

The array form does not tell a label from a leaf in the first place of a
sequence, so that reading it gives `Tree.relabeled`: every such leaf has become
the label of its node.  `Tree.ofText_jsonText` says what reading the printed
array form of a tree comes to, for all trees and all limits.
-/

namespace LojbanTree

namespace Tree

/-! ## Trees as they are read -/

/-- A sequence, whose first element is its label if it is a leaf. -/
def relabeledNode : List Tree → Tree
  | .leaf text :: rest => .labeled text rest
  | children => .unlabeled children

mutual

/-- The tree in which the first leaf of every sequence has become its label. -/
def relabeled : Tree → Tree
  | .leaf text => .leaf text
  | .labeled name children => .labeled name (relabeledAll children)
  | .unlabeled children => relabeledNode (relabeledAll children)

/-- Several trees in which first leaves have become labels. -/
def relabeledAll : List Tree → List Tree
  | [] => []
  | tree :: rest => relabeled tree :: relabeledAll rest

end

/-- Whether a tree is a sequence with a leaf in its first place. -/
def startsWithLeaf : Tree → Bool
  | .unlabeled (.leaf _ :: _) => true
  | _ => false

mutual

/-- How many inner nodes are nested in a tree, the root included. -/
def levels : Tree → Nat
  | .leaf _ => 0
  | .labeled _ children | .unlabeled children => levelsAll children + 1

/-- How many inner nodes are nested in several trees. -/
def levelsAll : List Tree → Nat
  | [] => 0
  | tree :: rest => max (levels tree) (levelsAll rest)

end

/-- The depth of the deepest inner node, with the root at depth zero. -/
def nesting (tree : Tree) : Nat := tree.levels - 1

theorem relabeledAll_eq_self_iff (trees : List Tree) :
    relabeledAll trees = trees ↔ ∀ tree ∈ trees, tree.relabeled = tree := by
  induction trees with
  | nil => simp [relabeledAll]
  | cons head tail inTail => simp [relabeledAll, inTail]

/-- Relabeling does not make or take away a leaf. -/
theorem relabeled_eq_leaf_iff (tree : Tree) (text : String) :
    tree.relabeled = .leaf text ↔ tree = .leaf text := by
  cases tree with
  | leaf word => simp [relabeled]
  | labeled name children => simp [relabeled]
  | unlabeled children =>
      simp only [relabeled, relabeledNode, reduceCtorEq, iff_false]
      split <;> simp

/--
A word at the front becomes a label, so that the tree is read back as another one.
-/
theorem relabeled_of_startsWithLeaf {tree : Tree}
    (starts : tree.startsWithLeaf = true) : tree.relabeled ≠ tree := by
  unfold startsWithLeaf at starts
  split at starts
  · simp [relabeled, relabeledAll, relabeledNode]
  · simp at starts

theorem relabeled_unlabeled {children : List Tree}
    (noLeaf : (Tree.unlabeled children).startsWithLeaf = false) :
    (Tree.unlabeled children).relabeled = .unlabeled (relabeledAll children) := by
  rw [relabeled]
  unfold relabeledNode
  split
  case h_1 text rest same =>
    match children with
    | [] => simp [relabeledAll] at same
    | first :: others =>
        simp only [relabeledAll, List.cons.injEq, relabeled_eq_leaf_iff] at same
        simp [startsWithLeaf, same.1] at noLeaf
  case h_2 => rfl

/-- A tree is read as it is if no sequence in it starts with a leaf. -/
theorem relabeled_eq_self_iff (tree : Tree) :
    tree.relabeled = tree ↔ ∀ node ∈ tree.nodes, node.startsWithLeaf = false := by
  induction tree using Tree.induction with
  | node tree below =>
      have onChildren :
          relabeledAll tree.children = tree.children ↔
            ∀ child ∈ tree.children, ∀ node ∈ child.nodes,
              node.startsWithLeaf = false := by
        rw [relabeledAll_eq_self_iff]
        exact forall₂_congr below
      rw [forall_mem_nodes_iff, ← onChildren]
      cases tree with
      | leaf text => simp [relabeled, startsWithLeaf, children, relabeledAll]
      | labeled name children => simp [relabeled, startsWithLeaf, Tree.children]
      | unlabeled children =>
          cases starts : (Tree.unlabeled children).startsWithLeaf with
          | false => simp [relabeled_unlabeled starts, Tree.children]
          | true => simp [relabeled_of_startsWithLeaf starts]

/-! ## Array forms -/

mutual

theorem isTextual_toJson : (tree : Tree) → tree.toJson.isTextual = true
  | .leaf text => by simp [toJson, Json.isTextual]
  | .labeled name children => by
      simp [toJson, Json.isTextual, Json.areTextual, areTextual_toJsonAll children]
  | .unlabeled children => by
      simp [toJson, Json.isTextual, areTextual_toJsonAll children]

theorem areTextual_toJsonAll :
    (trees : List Tree) → Json.areTextual (toJsonAll trees) = true
  | [] => by simp [toJsonAll, Json.areTextual]
  | tree :: rest => by
      simp [toJsonAll, Json.areTextual, isTextual_toJson tree,
        areTextual_toJsonAll rest]

end

mutual

theorem levels_toJson : (tree : Tree) → tree.toJson.levels = tree.levels
  | .leaf text => by simp [toJson, Json.levels, levels]
  | .labeled name children => by
      simp [toJson, Json.levels, Json.levelsAll, levels,
        levelsAll_toJsonAll children]
  | .unlabeled children => by
      simp [toJson, Json.levels, levels, levelsAll_toJsonAll children]

theorem levelsAll_toJsonAll :
    (trees : List Tree) → Json.levelsAll (toJsonAll trees) = levelsAll trees
  | [] => by simp [toJsonAll, Json.levelsAll, levelsAll]
  | tree :: rest => by
      simp [toJsonAll, Json.levelsAll, levelsAll, levels_toJson tree,
        levelsAll_toJsonAll rest]

end

/-! ## Reading array forms -/

theorem checkDepth_of_le {limit depth : Nat} (shallow : depth ≤ limit) :
    checkDepth limit depth = .done () := by
  simp [checkDepth, Nat.not_lt.mpr shallow]

/-- An array without a string in front is read as a sequence. -/
theorem ofElement_array_of_not_startsWithLeaf {limit depth : Nat}
    (shallow : depth ≤ limit) {children : List Tree}
    (noLeaf : (Tree.unlabeled children).startsWithLeaf = false) :
    ofElement limit depth (.array (toJsonAll children)) =
      (ofElements limit (depth + 1) (toJsonAll children)).map .unlabeled := by
  match children with
  | [] => simp [toJsonAll, ofElement, checkDepth_of_le shallow]
  | .leaf text :: rest => simp [startsWithLeaf] at noLeaf
  | .labeled name inner :: rest =>
      simp [toJsonAll, toJson, ofElement, checkDepth_of_le shallow]
  | .unlabeled inner :: rest =>
      simp [toJsonAll, toJson, ofElement, checkDepth_of_le shallow]

mutual

/-- An array form within the limit is read without a warning. -/
theorem ofElement_toJson (limit : Nat) :
    (tree : Tree) → (depth : Nat) → depth + tree.levels ≤ limit + 1 →
      ofElement limit depth tree.toJson = .done tree.relabeled
  | .leaf text, depth, _ => by simp [toJson, ofElement, relabeled]
  | .labeled name children, depth, fits => by
      simp only [levels] at fits
      have inside := ofElements_toJsonAll limit children (depth + 1) (by omega)
      simp [toJson, ofElement, checkDepth_of_le (show depth ≤ limit by omega),
        inside, relabeled]
  | .unlabeled children, depth, fits => by
      simp only [levels] at fits
      have shallow : depth ≤ limit := by omega
      cases starts : (Tree.unlabeled children).startsWithLeaf with
      | true =>
          match children with
          | .leaf text :: rest =>
              simp only [levelsAll] at fits
              have inside := ofElements_toJsonAll limit rest (depth + 1) (by omega)
              simp [toJson, toJsonAll, ofElement, checkDepth_of_le shallow, inside,
                relabeled, relabeledAll, relabeledNode]
      | false =>
          rw [toJson, ofElement_array_of_not_startsWithLeaf shallow starts,
            ofElements_toJsonAll limit children (depth + 1) (by omega),
            relabeled_unlabeled starts, Run.map_done]

theorem ofElements_toJsonAll (limit : Nat) :
    (trees : List Tree) → (depth : Nat) → depth + levelsAll trees ≤ limit + 1 →
      ofElements limit depth (toJsonAll trees) = .done (relabeledAll trees)
  | [], depth, _ => by simp [toJsonAll, ofElements, relabeledAll]
  | tree :: rest, depth, fits => by
      simp only [levelsAll] at fits
      have atTree := ofElement_toJson limit tree depth (by omega)
      have atRest := ofElements_toJsonAll limit rest depth (by omega)
      simp [toJsonAll, ofElements, relabeledAll, atTree, atRest]

end

/-- The brackets of a written tree are nested as deeply as the tree. -/
theorem peak_jsonText (tree : Tree) : Json.peak tree.jsonText = tree.levels := by
  rw [jsonText, Json.peak_compact (isTextual_toJson tree), levels_toJson]

/-- The nesting of a node counts from its root, which is a level of its own. -/
theorem levels_eq_nesting_add_one {tree : Tree} (node : tree.isLeaf = false) :
    tree.levels = tree.nesting + 1 := by
  cases tree with
  | leaf text => simp [isLeaf] at node
  | labeled name children => simp [nesting, levels]
  | unlabeled children => simp [nesting, levels]

/-- A string is JSON, but not the array form of a node. -/
theorem ofText_jsonText_of_isLeaf (limit : Nat) {tree : Tree}
    (word : tree.isLeaf = true) :
    ofText limit tree.jsonText = .fail (.input (.notArray .string)) := by
  have decoded : Json.read tree.jsonText = .ok tree.toJson :=
    Json.read_compact (isTextual_toJson tree)
  obtain ⟨text, rfl⟩ := (isLeaf_iff tree).mp word
  rw [ofText, peak_jsonText, decoded]
  simp [levels, toJson, ofJson, Json.kind]

/-- The printed array form of a node is read if and only if it fits the limit. -/
theorem ofText_jsonText_of_node (limit : Nat) {tree : Tree}
    (node : tree.isLeaf = false) :
    ofText limit tree.jsonText =
      if tree.nesting ≤ limit then .done tree.relabeled
      else .fail (.tooDeep limit) := by
  have decoded : Json.read tree.jsonText = .ok tree.toJson :=
    Json.read_compact (isTextual_toJson tree)
  have counted := levels_eq_nesting_add_one node
  by_cases fits : tree.nesting ≤ limit
  · have shallow : ¬ limit + 1 < tree.levels := by omega
    have inside := ofElement_toJson limit tree 0 (by omega)
    rw [ofText, peak_jsonText, decoded]
    simp only [shallow, fits, if_false, if_true]
    cases tree with
    | leaf text => simp [isLeaf] at node
    | labeled name children => exact inside
    | unlabeled children => exact inside
  · have deep : limit + 1 < tree.levels := by omega
    rw [ofText, peak_jsonText]
    simp [deep, fits]

/--
Reading the printed array form of a tree refuses a word and what is nested too
deeply, and gives everything else with first leaves as labels.  So the same
tree comes back if and only if it is a node within the limit in which no
sequence starts with a leaf.
-/
theorem ofText_jsonText (limit : Nat) (tree : Tree) :
    (ofText limit tree.jsonText =
      if tree.isLeaf then .fail (.input (.notArray .string))
      else if tree.nesting ≤ limit then .done tree.relabeled
      else .fail (.tooDeep limit)) ∧
      (ofText limit tree.jsonText = .done tree ↔
        tree.isLeaf = false ∧ tree.nesting ≤ limit ∧
          ∀ node ∈ tree.nodes, node.startsWithLeaf = false) := by
  cases kind : tree.isLeaf with
  | true =>
      rw [ofText_jsonText_of_isLeaf limit kind]
      simp [Run.fail, Run.done]
  | false =>
      rw [ofText_jsonText_of_node limit kind, ← relabeled_eq_self_iff]
      by_cases fits : tree.nesting ≤ limit <;>
        simp [fits, Run.fail, Run.done]

end Tree

end LojbanTree
