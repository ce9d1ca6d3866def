import LojbanTree.Proofs.Reduction.Remainder
import LojbanTree.Proofs.Tree.Places

/-!
# Which nodes a reduction comes to

A node is visited if the walk looks below every node above it, and whether it
looks below a node can be told from the treatment of the node and its label.
So the depth that the walk reaches is that of the deepest inner node that is
visited, whatever else the tree holds below nodes that are settled.
-/

namespace LojbanTree

namespace View

/--
Whether what is below a node matters: the node is trimmed, unboxed or kept, and
no mark stands for what is below it.
-/
def looksBelow (view : View) (tree : Tree) : Bool :=
  [Treatment.trim, .unbox, .pass].contains (view.treatment tree) &&
    (tree.name?.bind view.placeholder?).isNone

/-- Whether the walk comes to a place. -/
def visits (view : View) (place : Place) : Bool := place.above.all view.looksBelow

@[simp]
theorem visits_root (view : View) (tree : Tree) :
    view.visits ⟨[], tree⟩ = true := by
  simp [visits]

/-- A place below a root is visited if the walk looks below that root as well. -/
@[simp]
theorem visits_under (view : View) (root : Tree) (place : Place) :
    view.visits (place.under root) =
      (view.looksBelow root && view.visits place) := by
  simp [visits]

/-- The step of an inner node turns to the children as the treatment says. -/
theorem opens_eq_looksBelow (view : View) {tree : Tree}
    (inner : tree.isLeaf = false) :
    view.opens tree = view.looksBelow tree := by
  have stepped := view.stepped_step tree
  unfold opens
  generalize view.step tree = answer at stepped
  cases stepped with
  | word text => simp [Tree.isLeaf] at inner
  | sequence children =>
      cases trimming : view.trim <;> simp [looksBelow, Tree.name?, trimming]
  | deleted treated => simp [looksBelow, treated]
  | marked space => simp [looksBelow, Tree.name?, space]
  | flattened treated word => simp [looksBelow, treated]
  | trimFlattened treated word => simp [looksBelow, treated]
  | trimmed treated word => simp [looksBelow, treated, Tree.name?, word]
  | unboxed treated word => simp [looksBelow, treated, Tree.name?, word]
  | passed treated word => simp [looksBelow, treated, Tree.name?, word]

theorem lt_reachAll_iff (view : View) (trees : List Tree) (bound : Nat) :
    bound < view.reachAll trees ↔
      ∃ tree ∈ trees, tree.isLeaf = false ∧ bound ≤ view.reach tree := by
  induction trees with
  | nil => simp [reachAll]
  | cons head tail inTail =>
      have atHead :
          bound < (if head.isLeaf then 0 else view.reach head + 1) ↔
            head.isLeaf = false ∧ bound ≤ view.reach head := by
        cases head.isLeaf with
        | true => simp
        | false =>
            simp only [Bool.false_eq_true, if_false, true_and, Nat.lt_succ_iff]
      simp only [List.mem_cons, exists_eq_or_imp]
      rw [← atHead, ← inTail, reachAll]
      omega

/--
The walk goes as deep as the inner nodes to which it comes.  This holds for any
bound, as a child is one level deeper than its parent.
-/
theorem le_reach_iff (view : View) {tree : Tree} (inner : tree.isLeaf = false)
    (bound : Nat) :
    bound ≤ view.reach tree ↔
      ∃ place ∈ tree.places, view.visits place = true ∧
        place.node.isLeaf = false ∧ bound ≤ place.depth := by
  induction tree using Tree.induction generalizing bound with
  | node tree below =>
      cases bound with
      | zero =>
          have atRoot :
              ∃ place ∈ tree.places, view.visits place = true ∧
                place.node.isLeaf = false ∧ 0 ≤ place.depth :=
            ⟨⟨[], tree⟩, tree.root_mem_places, view.visits_root tree, inner,
              Nat.zero_le _⟩
          exact iff_of_true (Nat.zero_le _) atRoot
      | succ bound =>
          rw [reach_eq, view.opens_eq_looksBelow inner]
          constructor
          · intro reached
            split at reached
            case isFalse => simp at reached
            case isTrue looks =>
              obtain ⟨child, isChild, isInner, deep⟩ :=
                (view.lt_reachAll_iff _ bound).mp reached
              obtain ⟨place, isPlace, visited, node, placed⟩ :=
                (below child isChild isInner bound).mp deep
              refine ⟨place.under tree, Tree.under_mem_places isChild isPlace, ?_,
                node, ?_⟩
              · simp [looks, visited]
              · simpa using placed
          · rintro ⟨place, isPlace, visited, node, placed⟩
            rcases (Tree.mem_places_iff place tree).mp isPlace with
              rfl | ⟨child, isChild, lower, isLower, rfl⟩
            · simp [Place.depth] at placed
            · simp only [visits_under, Bool.and_eq_true] at visited
              obtain ⟨looks, visitedLower⟩ := visited
              have isInner := Tree.isLeaf_of_mem_places isLower node
              have deep : bound ≤ view.reach child :=
                (below child isChild isInner bound).mpr
                  ⟨lower, isLower, visitedLower, node,
                    Nat.le_of_succ_le_succ placed⟩
              rw [if_pos looks]
              exact (view.lt_reachAll_iff _ bound).mpr
                ⟨child, isChild, isInner, deep⟩

/--
The walk goes beyond a depth if and only if an inner node to which it comes is
there.
-/
theorem lt_reach_iff (view : View) {tree : Tree} (inner : tree.isLeaf = false)
    (bound : Nat) :
    bound < view.reach tree ↔
      ∃ place ∈ tree.places, view.visits place = true ∧
        place.node.isLeaf = false ∧ bound < place.depth :=
  view.le_reach_iff inner (bound + 1)

end View

end LojbanTree
