import LojbanTree.Proofs.Reduction.Remainder
import LojbanTree.Proofs.Tree.RoundTrip

/-!
# How deep a reduced tree is

The walk of a reduction reaches no deeper than the tree is nested, and what it
leaves is nested no deeper than the walk has reached.  So a tree within the
limit is always reduced, and what is left of any tree is within the limit.
-/

namespace LojbanTree

namespace Tree

theorem levels_eq (tree : Tree) :
    tree.levels = if tree.isLeaf then 0 else levelsAll tree.children + 1 := by
  cases tree <;> simp [levels, isLeaf, children]

theorem levelsAll_le_iff (trees : List Tree) (bound : Nat) :
    levelsAll trees ≤ bound ↔ ∀ tree ∈ trees, tree.levels ≤ bound := by
  induction trees with
  | nil => simp [levelsAll]
  | cons head tail inTail =>
      rw [levelsAll, Nat.max_le, List.forall_mem_cons, inTail]

theorem levels_eq_zero_of_isLeaf {tree : Tree} (word : tree.isLeaf = true) :
    tree.levels = 0 := by
  rw [levels_eq, word]
  rfl

/-- A node is nested no deeper than its children let it be. -/
theorem levels_le_of_children {tree : Tree} {bound : Nat}
    (below : ∀ child ∈ tree.children, child.levels ≤ bound) :
    tree.levels ≤ bound + 1 := by
  rw [levels_eq]
  split
  · omega
  · exact Nat.succ_le_succ ((levelsAll_le_iff _ _).mpr below)

end Tree

namespace View

/-! ## The walk within the tree -/

theorem reachAll_le_levelsAll (view : View) (trees : List Tree)
    (each : ∀ tree ∈ trees, view.reach tree ≤ tree.nesting) :
    view.reachAll trees ≤ Tree.levelsAll trees := by
  induction trees with
  | nil => simp [reachAll]
  | cons head tail inTail =>
      have atHead := each head List.mem_cons_self
      have atTail := inTail fun tree member =>
        each tree (List.mem_cons_of_mem head member)
      cases word : head.isLeaf with
      | true =>
          simp only [reachAll, Tree.levelsAll, word, if_true]
          omega
      | false =>
          have counted := Tree.levels_eq_nesting_add_one word
          simp only [reachAll, Tree.levelsAll, word, Bool.false_eq_true, if_false]
          omega

/-- The walk goes no deeper than there are nodes. -/
theorem reach_le_nesting (view : View) (tree : Tree) :
    view.reach tree ≤ tree.nesting := by
  induction tree using Tree.induction with
  | node tree below =>
      rw [reach_eq]
      split
      case isFalse settled => exact Nat.zero_le _
      case isTrue opened =>
        have ofChildren := view.reachAll_le_levelsAll tree.children below
        cases word : tree.isLeaf with
        | true =>
            obtain ⟨text, rfl⟩ := (Tree.isLeaf_iff tree).mp word
            simp [reachAll, Tree.children]
        | false =>
            have counted := Tree.levels_eq tree
            have nested := Tree.levels_eq_nesting_add_one word
            simp only [word, Bool.false_eq_true, if_false] at counted
            omega

/-! ## The result within the walk -/

/-- A node that is not opened is made without a look at what is kept. -/
theorem finish_eq_of_not_opens {view : View} {tree : Tree}
    (settled : view.opens tree = false) (kept : List Tree) :
    view.finish tree kept = view.finish tree [] := by
  unfold opens at settled
  unfold finish
  split at settled
  · rfl
  · simp at settled

/--
What is made of a node is one level higher than what was kept of its children: all
nodes below it are words, or they were kept.
-/
theorem levels_finish {view : View} {tree : Tree} {kept : List Tree}
    {result : Tree} (left : view.finish tree kept = some result) :
    result.levels ≤ (if view.opens tree then Tree.levelsAll kept else 0) + 1 := by
  have within {below : List Tree} (made : view.finish tree below = some result) :
      result.levels ≤ Tree.levelsAll below + 1 := by
    have bounded := (Tree.levelsAll_le_iff below _).mp (Nat.le_refl _)
    rcases view.children_finish made with same | inner
    · exact Nat.le_succ_of_le (bounded result same)
    · apply Tree.levels_le_of_children
      intro child isChild
      rcases inner child isChild with isWord | isKept
      · rw [Tree.levels_eq_zero_of_isLeaf isWord]
        exact Nat.zero_le _
      · exact bounded child isKept
  cases opened : view.opens tree with
  | true => exact within left
  | false =>
      rw [finish_eq_of_not_opens opened] at left
      exact within left

theorem levelsAll_remainsAll_le (view : View) (trees : List Tree)
    (each : ∀ tree ∈ trees, ∀ result, view.remains tree = some result →
      result.levels ≤ view.reach tree + 1) :
    Tree.levelsAll (view.remainsAll trees) ≤ view.reachAll trees := by
  induction trees with
  | nil => simp [remainsAll, Tree.levelsAll]
  | cons head tail inTail =>
      have atHead := each head List.mem_cons_self
      have atTail := inTail fun tree member =>
        each tree (List.mem_cons_of_mem head member)
      cases word : head.isLeaf with
      | true =>
          simp only [remainsAll, view.remains_of_isLeaf word, Option.toList_some,
            List.singleton_append, Tree.levelsAll,
            Tree.levels_eq_zero_of_isLeaf word, reachAll]
          omega
      | false =>
          simp only [reachAll, word, Bool.false_eq_true, if_false, remainsAll]
          cases left : view.remains head with
          | none =>
              simp only [Option.toList_none, List.nil_append]
              omega
          | some result =>
              have atResult := atHead result left
              simp only [Option.toList_some, List.singleton_append, Tree.levelsAll]
              omega

/-- What is left of a tree is no deeper than the walk over the tree. -/
theorem levels_remains (view : View) (tree result : Tree)
    (left : view.remains tree = some result) :
    result.levels ≤ view.reach tree + 1 := by
  induction tree using Tree.induction generalizing result with
  | node tree below =>
      have ofChildren := view.levelsAll_remainsAll_le tree.children below
      rw [remains_eq_finish] at left
      have made := levels_finish left
      rw [reach_eq]
      split
      case isTrue opened =>
        simp only [opened, if_true] at made
        omega
      case isFalse settled =>
        simp only [settled, Bool.false_eq_true, if_false] at made
        omega

/-- What is left is nested no deeper than the walk has reached. -/
theorem nesting_remains (view : View) (tree result : Tree)
    (left : view.remains tree = some result) :
    result.nesting ≤ view.reach tree := by
  have counted := view.levels_remains tree result left
  simp only [Tree.nesting]
  omega

/-! ## Reductions that come to an end -/

/-- A tree within the limit is reduced. -/
theorem outcome_reduce_of_nesting_le (view : View) {limit : Nat} {tree : Tree}
    (within : tree.nesting ≤ limit) :
    (view.reduce limit tree).outcome = .ok (view.remains tree) := by
  have reached := view.reach_le_nesting tree
  rw [outcome_reduce, if_pos (Nat.le_trans reached within)]

/-- What a reduction leaves is within its limit, however deep the tree was. -/
theorem nesting_le_of_outcome {view : View} {limit : Nat} {tree result : Tree}
    (left : (view.reduce limit tree).outcome = .ok (some result)) :
    result.nesting ≤ limit := by
  have remaining := (eq_remains_of_outcome left).symm
  have nested := view.nesting_remains tree result remaining
  rw [outcome_reduce] at left
  split at left
  case isTrue reached => exact Nat.le_trans nested reached
  case isFalse => simp at left

end View

end LojbanTree
