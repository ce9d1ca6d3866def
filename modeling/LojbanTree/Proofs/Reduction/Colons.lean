import LojbanTree.Proofs.Reduction.Making
import LojbanTree.View.Letter

/-!
# Colons in joined labels

A view that joins labels with words puts a colon between the two, and does so
only once for a word: a label over a word with a colon stays apart and ends in
a colon of its own.  So in a reduced tree a colon always tells the same thing,
provided that the tree had none before.  `View.ReadsClearly` says what it tells
at one node, and `View.readsClearly_of_reduce` that it does so at all nodes.
-/

namespace LojbanTree

namespace Tree

/-- What is written at a node itself: the word of a leaf or the label of a node. -/
def inscription : Tree → String
  | .leaf text => text
  | .labeled name _ => name
  | .unlabeled _ => ""

/-- Whether there is no colon in a tree, neither in a label nor in a word. -/
def IsColonFree (tree : Tree) : Prop :=
  ∀ node ∈ tree.nodes, ':' ∉ node.inscription.toList

theorem IsColonFree.of_mem_nodes {tree node : Tree} (colonFree : tree.IsColonFree)
    (member : node ∈ tree.nodes) : node.IsColonFree :=
  fun lower below => colonFree lower (mem_nodes_trans member below)

theorem IsColonFree.inscription_eq {tree : Tree} (colonFree : tree.IsColonFree) :
    ':' ∉ tree.inscription.toList :=
  colonFree tree tree.self_mem_nodes

/-- Nothing with a colon is spoken of a tree that is free of colons. -/
theorem IsColonFree.spoken {tree : Tree} (colonFree : tree.IsColonFree) :
    ':' ∉ tree.spoken.toList := by
  intro colon
  obtain ⟨text, isLeaf, inText⟩ := exists_leaf_of_mem_spoken ':' tree colon
  exact colonFree _ isLeaf inText

end Tree

namespace View

/-- What the colon of a label tells about what is below it. -/
structure LabelReadsClearly (view : View) (name : String) (children : List Tree) :
    Prop where
  /-- A label has a colon exactly over a single word that has one. -/
  colon_iff : ':' ∈ name.toList ↔ ∃ word, children = [.leaf word] ∧
    ':' ∈ word.toList
  /-- The colon of a label is its last character and its only colon. -/
  colon_last : ':' ∈ name.toList → ∃ label, name = label ++ ":" ∧
    ':' ∉ label.toList
  /-- Only a mark for space stays below its label without a colon. -/
  apart : ∀ word, children = [.leaf word] → ':' ∉ word.toList →
    name ∈ Label.spaces ∧ word = Label.spaceMark ∧
      view.showSpaces = true ∧ view.trim = false

/-- What the colons at a node tell. -/
def ReadsClearly (view : View) : Tree → Prop
  | .leaf text => text.toList.count ':' ≤ 1
  | .labeled name children => view.LabelReadsClearly name children
  | .unlabeled _ => True

theorem shownName_colonFree (view : View) {name : String}
    (colonFree : ':' ∉ name.toList) :
    ':' ∉ (view.shownName name).toList := by
  intro colon
  exact colonFree (view.of_shownName (':' ∈ ·.toList) (by decide) colon)

theorem count_colon_of_not_mem {text : String} (colonFree : ':' ∉ text.toList) :
    text.toList.count ':' ≤ 1 := by
  rw [List.count_eq_zero_of_not_mem colonFree]
  exact Nat.zero_le 1

/-- Joining puts a single colon between a label and a word. -/
theorem count_colon_joined {label word : String} (labelFree : ':' ∉ label.toList)
    (wordFree : ':' ∉ word.toList) :
    (label ++ ":" ++ word).toList.count ':' ≤ 1 := by
  simp [List.count_eq_zero_of_not_mem labelFree,
    List.count_eq_zero_of_not_mem wordFree]

/--
A label without a colon stands apart from its word only if both are about space.
-/
theorem labelReadsClearly_of_colonFree {view : View} {name : String}
    {children : List Tree} (colonFree : ':' ∉ name.toList)
    (noColon : ∀ word, children = [.leaf word] → ':' ∉ word.toList)
    (apart : ∀ word, children = [.leaf word] → ':' ∉ word.toList →
      name ∈ Label.spaces ∧ word = Label.spaceMark ∧
        view.showSpaces = true ∧ view.trim = false) :
    view.LabelReadsClearly name children where
  colon_iff := by
    constructor
    · intro colon
      exact absurd colon colonFree
    · rintro ⟨word, only, colon⟩
      exact absurd colon (noColon word only)
  colon_last colon := absurd colon colonFree
  apart := apart

/-- Whatever is made of a tree without colons reads clearly. -/
theorem Makes.readsClearly {view : View} (joining : view.joinsLabels = true)
    {kept : List Tree} {tree node : Tree} (colonFree : tree.IsColonFree)
    (made : view.Makes kept tree node) : view.ReadsClearly node := by
  have named := colonFree.inscription_eq
  have spoken := colonFree.spoken
  cases made with
  | word text => exact count_colon_of_not_mem named
  | mark space =>
      obtain ⟨_, _, rfl⟩ := (view.placeholder?_eq_some_iff _ _).mp space
      show Label.spaceMark.toList.count ':' ≤ 1
      decide
  | overMark space untrimmed =>
      obtain ⟨shown, isSpace, rfl⟩ := (view.placeholder?_eq_some_iff _ _).mp space
      apply labelReadsClearly_of_colonFree named
      · rintro word ⟨rfl⟩
        decide
      · rintro word ⟨rfl⟩ _
        exact ⟨isSpace, rfl, shown, untrimmed⟩
  | spoken treated => exact count_colon_of_not_mem spoken
  | silent treated => exact count_colon_of_not_mem (view.shownName_colonFree named)
  | joinedText treated =>
      exact count_colon_joined (view.shownName_colonFree named) spoken
  | overText treated apart => simp [joining] at apart
  | sequence | trimmed => trivial
  | unboxed treated =>
      exact count_colon_of_not_mem (view.shownName_colonFree named)
  | bare treated nothing =>
      apply labelReadsClearly_of_colonFree (view.shownName_colonFree named) <;>
        simp
  | joinedWord treated _ only plain =>
      exact count_colon_joined (view.shownName_colonFree named) plain
  | @overColon name word children treated _ only colon =>
      refine ⟨?_, ?_, ?_⟩
      · simp [colon]
      · intro _
        exact ⟨view.shownName name, rfl, view.shownName_colonFree named⟩
      · rintro other ⟨rfl⟩ plain
        exact absurd colon plain
  | passed treated inhabited apart =>
      apply labelReadsClearly_of_colonFree (view.shownName_colonFree named)
      · intro word only
        exact absurd only (apart joining word)
      · intro word only
        exact absurd only (apart joining word)

/--
If labels are joined with words and a tree has no colon, then the colons of what
is left of the tree are never ambiguous.
-/
theorem readsClearly_of_reduce (view : View) (limit : Nat) (tree result : Tree)
    (joining : view.joinsLabels = true) (colonFree : tree.IsColonFree)
    (left : (view.reduce limit tree).outcome = .ok (some result)) :
    ∀ node ∈ result.nodes, view.ReadsClearly node := by
  have remaining := (eq_remains_of_outcome left).symm
  intro node member
  obtain ⟨place, isPlace, _, made⟩ :=
    view.exists_made_of_mem_nodes tree result node remaining member
  exact made.readsClearly joining
    (colonFree.of_mem_nodes (Tree.node_mem_nodes isPlace))

/-- An untrimmed view that shows space and joins labels with words. -/
def joinedWholes : View :=
  .ofLetterSet fun letter => letter = .raw ∨ letter = .spaces ∨ letter = .mainParts

/-- A part of a sentence in two others, with space behind it. -/
def twiceNestedPart : Tree :=
  .labeled "sentence"
    [ .labeled "sumti" [.labeled "sumti" [.labeled "KOhA" [.leaf "mi"]]],
      .labeled "spaces" [.leaf " "] ]

/--
Only the innermost label is joined, the next one gets a colon, and space stays
apart.
-/
def joinedParts : Tree :=
  .labeled "sentence"
    [ .labeled "sumti" [.labeled "sumti:" [.leaf "KOhA:mi"]],
      .labeled "spaces" [.leaf "_"] ]

theorem readsClearly_of_reduce_twiceNestedPart :
    joinedWholes.joinsLabels = true ∧ twiceNestedPart.IsColonFree ∧
      (joinedWholes.reduce 3 twiceNestedPart).outcome = .ok (some joinedParts) ∧
      ∀ node ∈ joinedParts.nodes, joinedWholes.ReadsClearly node := by
  have joining : joinedWholes.joinsLabels = true := rfl
  have colonFree : twiceNestedPart.IsColonFree := by
    unfold Tree.IsColonFree
    decide
  have left :
      (joinedWholes.reduce 3 twiceNestedPart).outcome =
        .ok (some joinedParts) := by
    with_unfolding_all rfl
  exact ⟨joining, colonFree, left,
    readsClearly_of_reduce _ 3 _ _ joining colonFree left⟩

end View

end LojbanTree
