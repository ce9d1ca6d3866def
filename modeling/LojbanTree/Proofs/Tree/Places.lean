import LojbanTree.Proofs.Tree.Nodes

/-!
# Where the nodes of a tree stand

Equal nodes can stand at different depths of a tree.  `Tree.places` lists the
nodes in the order of `Tree.nodes`, each with the nodes above it, so that a
statement about how a walk comes to a node is one about the members of a list.
-/

namespace LojbanTree

/-- A node in a tree, with the nodes above it from the root down. -/
structure Place where
  above : List Tree
  node : Tree
  deriving DecidableEq

namespace Place

/-- How many nodes are above a place; the root has depth zero. -/
def depth (place : Place) : Nat := place.above.length

/-- The place that a place in a child of the root has in the whole tree. -/
def under (root : Tree) (place : Place) : Place :=
  ⟨root :: place.above, place.node⟩

@[simp]
theorem depth_under (root : Tree) (place : Place) :
    (place.under root).depth = place.depth + 1 :=
  rfl

@[simp]
theorem above_under (root : Tree) (place : Place) :
    (place.under root).above = root :: place.above :=
  rfl

@[simp]
theorem node_under (root : Tree) (place : Place) :
    (place.under root).node = place.node :=
  rfl

end Place

namespace Tree

mutual

/-- All places of a tree, each node before those below it. -/
def places : Tree → List Place
  | .leaf text => [⟨[], .leaf text⟩]
  | .labeled name children =>
      ⟨[], .labeled name children⟩ ::
        (placesAll children).map (.under (.labeled name children))
  | .unlabeled children =>
      ⟨[], .unlabeled children⟩ ::
        (placesAll children).map (.under (.unlabeled children))

/-- All places of several trees, each seen from the root of its own tree. -/
def placesAll : List Tree → List Place
  | [] => []
  | tree :: rest => places tree ++ placesAll rest

end

/--
The root comes first, and behind it the places in its children, one level deeper.
-/
theorem places_eq_cons (tree : Tree) :
    tree.places = ⟨[], tree⟩ :: (placesAll tree.children).map (.under tree) := by
  cases tree <;> simp [places, children, placesAll]

theorem mem_placesAll (place : Place) (trees : List Tree) :
    place ∈ placesAll trees ↔ ∃ tree ∈ trees, place ∈ tree.places := by
  induction trees with
  | nil => simp [placesAll]
  | cons head tail inTail => simp [placesAll, inTail]

/-- A place is that of the root, or is a place in one of the children. -/
theorem mem_places_iff (place : Place) (tree : Tree) :
    place ∈ tree.places ↔
      place = ⟨[], tree⟩ ∨
        ∃ child ∈ tree.children, ∃ inner ∈ child.places,
          inner.under tree = place := by
  rw [places_eq_cons, List.mem_cons, List.mem_map]
  apply or_congr_right
  constructor
  · rintro ⟨inner, member, same⟩
    obtain ⟨child, isChild, inChild⟩ := (mem_placesAll inner _).mp member
    exact ⟨child, isChild, inner, inChild, same⟩
  · rintro ⟨child, isChild, inner, inChild, same⟩
    exact ⟨inner, (mem_placesAll inner _).mpr ⟨child, isChild, inChild⟩, same⟩

theorem root_mem_places (tree : Tree) : ⟨[], tree⟩ ∈ tree.places :=
  (mem_places_iff _ tree).mpr (.inl rfl)

theorem under_mem_places {tree child : Tree} {inner : Place}
    (isChild : child ∈ tree.children) (inChild : inner ∈ child.places) :
    inner.under tree ∈ tree.places :=
  (mem_places_iff _ tree).mpr (.inr ⟨child, isChild, inner, inChild, rfl⟩)

/-- There is no inner node in a word. -/
theorem isLeaf_of_mem_places {tree : Tree} {place : Place}
    (member : place ∈ tree.places)
    (inner : place.node.isLeaf = false) : tree.isLeaf = false := by
  cases tree with
  | leaf text =>
      simp only [places, List.mem_singleton] at member
      simp [member, isLeaf] at inner
  | labeled name children => rfl
  | unlabeled children => rfl

/-- The places hold the nodes of the tree in their order. -/
theorem map_node_places (tree : Tree) :
    tree.places.map Place.node = tree.nodes := by
  induction tree using Tree.induction with
  | node tree below =>
      have ofTrees (trees : List Tree)
          (each : ∀ child ∈ trees, child.places.map Place.node = child.nodes) :
          (placesAll trees).map Place.node = nodesAll trees := by
        induction trees with
        | nil => simp [placesAll, nodesAll]
        | cons head tail inTail =>
            obtain ⟨atHead, atTail⟩ := List.forall_mem_cons.mp each
            rw [placesAll, nodesAll, List.map_append, atHead, inTail atTail]
      have unmoved : Place.node ∘ Place.under tree = Place.node := rfl
      rw [places_eq_cons, nodes_eq_cons, List.map_cons, List.map_map, unmoved,
        ofTrees tree.children below]

theorem node_mem_nodes {tree : Tree} {place : Place}
    (member : place ∈ tree.places) :
    place.node ∈ tree.nodes := by
  rw [← map_node_places]
  exact List.mem_map_of_mem member

end Tree

end LojbanTree
