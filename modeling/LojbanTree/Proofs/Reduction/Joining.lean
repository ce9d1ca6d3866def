import LojbanTree.Proofs.Reduction.Remainder

/-!
# Joining labels with words afterwards

A reduction joins a label with its only word where it makes the node.  The same
can be done in a second walk: `Tree.joined` takes a tree whose labels stayed
apart and joins them from the leaves up.  `View.reduce_eq_joined` says that one
walk does what the two do in turn, down to the journal.
-/

namespace LojbanTree

namespace Tree

/--
A label over nodes that are joined already.  A word that has a colon keeps its
node, whose label gets a colon as well.
-/
def joinedNode (label : String) : List Tree → Tree
  | [.leaf word] =>
      if ':' ∈ word.toList then .labeled (label ++ ":") [.leaf word]
      else .leaf (label ++ ":" ++ word)
  | children => .labeled label children

mutual

/-- A tree with all labels joined with their only words, from the leaves up. -/
def joined : Tree → Tree
  | .leaf text => .leaf text
  | .labeled name children => joinedNode name (joinedAll children)
  | .unlabeled children => .unlabeled (joinedAll children)

/-- Several trees with their labels joined. -/
def joinedAll : List Tree → List Tree
  | [] => []
  | tree :: rest => joined tree :: joinedAll rest

end

@[simp]
theorem joinedAll_eq_map (trees : List Tree) :
    joinedAll trees = trees.map joined := by
  induction trees with
  | nil => simp [joinedAll]
  | cons head tail inTail => simp [joinedAll, inTail]

end Tree

namespace View

/-- The view that differs in nothing but that labels and words stay apart. -/
def apart (view : View) : View := { view with plainLeaves := true }

@[simp]
theorem joinsLabels_apart (view : View) : view.apart.joinsLabels = false := by
  simp [apart, joinsLabels]

/-- Whether labels are joined does not count for the treatment of a node. -/
theorem treatment_apart (view : View) (tree : Tree) :
    view.apart.treatment tree = view.treatment tree :=
  rfl

/-- An answer with its tree joined. -/
def Step.joined : Step → Step
  | .settled result => .settled (result.map Tree.joined)
  | .rebuild treatment label? => .rebuild treatment label?

/-! ## Single nodes -/

section Joining

variable {view : View} (joining : view.joinsLabels = true)
include joining

theorem labeledNode_eq_joinedNode (label : String) (kept : List Tree) :
    view.labeledNode label kept = Tree.joinedNode label kept := by
  unfold labeledNode Tree.joinedNode
  split <;> simp [joining]

/-- Text without a colon is joined with the label in either way. -/
theorem flattened_eq_joined (label? : Option String) (text : String)
    (colonFree : ':' ∉ text.toList) :
    view.flattened label? text = (view.apart.flattened label? text).joined := by
  cases label? with
  | none => simp [flattened, Tree.joined]
  | some label =>
      rw [flattened_of_apart view.joinsLabels_apart]
      by_cases nothing : text = ""
      · simp [flattened, nothing, Tree.joined]
      · simp [flattened, nothing, joining, Tree.joined, Tree.joinedNode, colonFree]

/-- A node that is rebuilt over joined nodes. -/
theorem rebuilt_eq_joined (treatment : Treatment) (label? : Option String)
    (kept : List Tree) :
    view.rebuilt treatment label? (kept.map Tree.joined) =
      (view.apart.rebuilt treatment label? kept).map Tree.joined := by
  cases label? with
  | none =>
      match kept with
      | [] => simp [rebuilt]
      | [only] =>
          by_cases passing : treatment = .pass <;>
            simp [rebuilt, passing, Tree.joined]
      | first :: second :: rest => simp [rebuilt, Tree.joined]
  | some label =>
      cases kept with
      | nil =>
          by_cases passing : treatment = .pass <;>
            simp [rebuilt, passing, Tree.joined, Tree.joinedNode]
      | cons first rest =>
          simp [rebuilt, labeledNode_eq_joinedNode joining,
            labeledNode_of_apart view.joinsLabels_apart, Tree.joined]

/--
What is settled about a node with labels apart is settled joined without.  The only
label over text that was not a leaf before is that of a flattened word.
-/
theorem Stepped.joined {tree : Tree} {answer : Step}
    (space : view.trim = true ∨ view.showSpaces = false)
    (colonFree : view.keepMorphology = true ∨
      ∀ text, .leaf text ∈ tree.nodes → ':' ∉ text.toList)
    (stepped : view.apart.Stepped tree answer) :
    view.Stepped tree answer.joined := by
  cases stepped with
  | word text => simpa [Step.joined, Tree.joined] using Stepped.word text
  | sequence children => exact .sequence children
  | deleted treated => exact .deleted treated
  | @marked name mark children isSpace =>
      rcases space with trimming | hidden
      · have answer : view.Stepped (.labeled name children) _ := .marked isSpace
        simpa [apart, trimming, View.marked, Step.joined, Tree.joined] using answer
      · simp [placeholder?, apart, hidden] at isSpace
  | @flattened name children treated word =>
      have grounds := view.grounds_treatment (.labeled name children)
      rw [← treatment_apart, treated] at grounds
      have noColon : ':' ∉ (Tree.spokenAll children).toList := by
        rcases colonFree with kept | everywhere
        · simp [Grounds, flattens, kept] at grounds
        · intro colon
          obtain ⟨text, isLeaf, inText⟩ :=
            Tree.exists_leaf_of_mem_spoken ':' (.labeled name children) colon
          exact everywhere text isLeaf inText
      have answer : view.Stepped (.labeled name children) _ :=
        .flattened treated word
      rw [flattened_eq_joined joining _ _ noColon] at answer
      exact answer
  | @trimFlattened name children treated word =>
      have answer : view.Stepped (.labeled name children) _ :=
        .trimFlattened treated word
      simpa [Step.joined, Tree.joined] using answer
  | trimmed treated word => exact .trimmed treated word
  | unboxed treated word => exact .unboxed treated word
  | passed treated word => exact .passed treated word

end Joining

/-- The walk notes the same visits and stops at the same limit. -/
theorem enter_eq_joined {view : View} (limit depth : Nat) {tree : Tree}
    (same : view.step tree = (view.apart.step tree).joined) :
    view.enter limit depth tree =
      (view.apart.enter limit depth tree).map Step.joined := by
  unfold enter
  split
  · simp
  · split
    · simp [Step.joined]
    · rw [treatment_apart, same]
      simp [Run.map_andThen]

/-! ## Whole trees -/

theorem reduceAll_eq_joined {view : View} (limit depth : Nat) (trees : List Tree)
    (each : ∀ tree ∈ trees,
      view.reduceAt limit depth tree =
        (view.apart.reduceAt limit depth tree).map (Option.map Tree.joined)) :
    view.reduceAll limit depth trees =
      (view.apart.reduceAll limit depth trees).map (List.map Tree.joined) := by
  induction trees with
  | nil => simp [reduceAll]
  | cons head tail inTail =>
      have atHead := each head List.mem_cons_self
      have atTail := inTail fun tree member =>
        each tree (List.mem_cons_of_mem head member)
      cases word : head.isLeaf with
      | true =>
          obtain ⟨text, rfl⟩ := (Tree.isLeaf_iff head).mp word
          simp [reduceAll, Tree.isLeaf, Tree.joined, atTail]
      | false =>
          simp only [reduceAll, word, Bool.false_eq_true, if_false, Run.bind_eq,
            Run.functor_map_eq, atHead, atTail, Run.map_map, Run.andThen_map,
            Run.map_andThen]
          congr
          funext left?
          cases left? <;> simp

/--
The walk that joins labels finds what the other one finds, joined afterwards.  This
holds at any depth, as the walk over the children is one level deeper.
-/
theorem reduceAt_eq_joined {view : View} (joining : view.joinsLabels = true)
    (space : view.trim = true ∨ view.showSpaces = false) (limit depth : Nat)
    (tree : Tree)
    (colonFree : view.keepMorphology = true ∨
      ∀ text, .leaf text ∈ tree.nodes → ':' ∉ text.toList) :
    view.reduceAt limit depth tree =
      (view.apart.reduceAt limit depth tree).map (Option.map Tree.joined) := by
  induction tree using Tree.induction generalizing depth with
  | node tree below =>
      have same :=
        ((view.apart.stepped_step tree).joined joining space colonFree).step_eq
      have ofChildren : view.reduceAll limit (depth + 1) tree.children =
          (view.apart.reduceAll limit (depth + 1) tree.children).map
            (List.map Tree.joined) := by
        apply reduceAll_eq_joined
        intro child isChild
        apply below child isChild
        apply colonFree.imp_right
        intro everywhere text isLeaf
        exact everywhere text
          ((Tree.mem_nodes_iff _ _).mpr (.inr ⟨child, isChild, isLeaf⟩))
      rw [reduceAt_eq, reduceAt_eq, enter_eq_joined limit depth same, ofChildren,
        Run.andThen_map, Run.map_andThen]
      congr
      funext answer
      cases answer with
      | settled result => simp [Step.joined]
      | rebuild treatment label? =>
          simp only [Step.joined, Run.map_map]
          congr
          funext kept
          exact rebuilt_eq_joined joining treatment label? kept

/--
Joining while the tree is reduced is the same as reducing it with labels and
words apart and joining them afterwards: the same fault, the same absence, the
same tree and the same journal.
-/
theorem reduce_eq_joined (view : View) (limit : Nat) (tree : Tree)
    (joining : view.joinsLabels = true)
    (space : view.trim = true ∨ view.showSpaces = false)
    (colonFree : view.keepMorphology = true ∨
      ∀ text, .leaf text ∈ tree.nodes → ':' ∉ text.toList) :
    view.reduce limit tree =
      (view.apart.reduce limit tree).map (Option.map Tree.joined) :=
  reduceAt_eq_joined joining space limit 0 tree colonFree

/-- A trimmed view of the main parts of a sentence. -/
def trimmedParts : View where
  keepMorphology := false
  showSpaces := true
  showTerminators := false
  showWordClasses := false
  trim := true
  showMainParts := true
  json := false
  plainLeaves := false

/-- A part of a sentence within another, with space behind it. -/
def nestedPart : Tree :=
  .labeled "sentence"
    [ .labeled "sumti" [.labeled "sumti" [.leaf "mi"]],
      .labeled "spaces" [.leaf " "] ]

/-- The inner label is joined with the word and the outer one gets a colon. -/
theorem reduce_eq_joined_nestedPart :
    trimmedParts.joinsLabels = true ∧
      (trimmedParts.trim = true ∨ trimmedParts.showSpaces = false) ∧
      (trimmedParts.keepMorphology = true ∨
        ∀ text, .leaf text ∈ nestedPart.nodes → ':' ∉ text.toList) ∧
      (trimmedParts.reduce 3 nestedPart).outcome =
        .ok (some (.labeled "BRIDI"
          [.labeled "SUMTI:" [.leaf "SUMTI:mi"], .leaf "_"])) ∧
      trimmedParts.reduce 3 nestedPart =
        (trimmedParts.apart.reduce 3 nestedPart).map (Option.map Tree.joined) := by
  have joining : trimmedParts.joinsLabels = true := by decide
  have colonFree :
      ∀ text, .leaf text ∈ nestedPart.nodes → ':' ∉ text.toList := by
    intro text isLeaf
    simp only [nestedPart, Tree.nodes, Tree.nodesAll] at isLeaf
    have either : text = "mi" ∨ text = " " := by simpa using isLeaf
    rcases either with rfl | rfl <;> decide
  have success :
      (trimmedParts.reduce 3 nestedPart).outcome =
        .ok (some (.labeled "BRIDI"
          [.labeled "SUMTI:" [.leaf "SUMTI:mi"], .leaf "_"])) := by
    rfl
  exact ⟨joining, .inl rfl, .inr colonFree, success,
    reduce_eq_joined _ 3 _ joining (.inl rfl) (.inr colonFree)⟩

end View

end LojbanTree
