import LojbanTree.Proofs.Reduction.Remainder

/-!
# The words that a reduction keeps

`View.expectedText` says, by recursion on the tree alone, which words a view
should leave: nothing of a deleted node, a mark for space, the name of a node
that has no words, and otherwise the words below a node in their order.  As
long as labels are not joined with words, the surface text of a reduced tree is
exactly that.
-/

namespace LojbanTree

namespace View

/-! ## The expected text -/

/-- The name under which a node appears: a short one if labels are trimmed. -/
def displayName (view : View) (tree : Tree) : String :=
  match tree.name? with
  | none => ""
  | some name =>
      if view.trim then (Label.displayNames.lookup name).getD name else name

/-- The text of a node, given the text of its children. -/
def expectedNode (view : View) (tree : Tree) (below : String) : String :=
  if tree.isEmpty ∨ view.treatment tree = .delete then ""
  else if view.showSpaces ∧ tree.labelAmong Label.spaces then "_"
  else
    match view.treatment tree with
    | .flatten =>
        if tree.spoken = "" then view.displayName tree else tree.spoken
    | .trimFlatten => tree.spoken
    | .unbox => view.displayName tree
    | .delete | .trim | .pass => below

mutual

/-- The surface text that a view should leave of a tree. -/
def expectedText (view : View) : Tree → String
  | .leaf text => text
  | .labeled name children =>
      view.expectedNode (.labeled name children) (expectedTextAll view children)
  | .unlabeled children =>
      view.expectedNode (.unlabeled children) (expectedTextAll view children)

/-- The surface text that a view should leave of several trees. -/
def expectedTextAll (view : View) : List Tree → String
  | [] => ""
  | tree :: rest => expectedText view tree ++ expectedTextAll view rest

end

@[simp]
theorem displayName_labeled (view : View) (name : String) (children : List Tree) :
    view.displayName (.labeled name children) = view.shownName name := by
  cases trimming : view.trim <;>
    simp [displayName, Tree.name?, shownName, shortName?, trimming]

theorem expectedText_eq (view : View) {tree : Tree} (node : tree.isLeaf = false) :
    view.expectedText tree =
      view.expectedNode tree (view.expectedTextAll tree.children) := by
  cases tree with
  | leaf text => simp [Tree.isLeaf] at node
  | labeled name children => simp [expectedText, Tree.children]
  | unlabeled children => simp [expectedText, Tree.children]

/-- A mark is all that is expected of shown space. -/
theorem expectedNode_marked (view : View) {name mark : String}
    (children : List Tree)
    (space : view.placeholder? name = some mark) (below : String) :
    view.expectedNode (.labeled name children) below = mark := by
  obtain ⟨shown, isSpace, rfl⟩ :=
    (view.placeholder?_eq_some_iff name mark).mp space
  have treated := view.treatment_of_space children shown isSpace
  cases trimming : view.trim <;>
    simp [expectedNode, treated, shown, isSpace, trimming, Tree.isEmpty,
      Tree.labelAmong, Tree.name?, Label.spaceMark]

theorem expectedNode_word (view : View) {name : String} {children : List Tree}
    (word : view.placeholder? name = none) (below : String) :
    view.expectedNode (.labeled name children) below =
      match view.treatment (.labeled name children) with
      | .flatten =>
          if Tree.spokenAll children = "" then view.shownName name
          else Tree.spokenAll children
      | .trimFlatten => Tree.spokenAll children
      | .unbox => view.shownName name
      | .delete => ""
      | .trim | .pass => below := by
  have noMark : ¬ (view.showSpaces = true ∧ name ∈ Label.spaces) := by
    rintro ⟨shown, isSpace⟩
    simp [placeholder?, shown, isSpace] at word
  simp only [expectedNode, Tree.isEmpty, Tree.labelAmong, Tree.name?,
    Option.any_some, Label.among_iff, noMark, displayName_labeled, Tree.spoken]
  cases view.treatment (.labeled name children) <;> simp

/-! ## The text of a node that is made -/

/-- Without a label there is nothing to say but what is kept. -/
theorem spoken_rebuilt_none (view : View) (treatment : Treatment)
    (kept : List Tree) :
    Tree.spokenAll (view.rebuilt treatment none kept).toList =
      Tree.spokenAll kept := by
  match kept with
  | [] => simp [rebuilt]
  | [only] =>
      by_cases passing : treatment = .pass
      · simp [rebuilt, passing, Tree.spoken]
      · simp [rebuilt, passing]
  | first :: second :: rest => simp [rebuilt, Tree.spoken]

/-- What is left of several trees is spoken as expected if each of them is. -/
theorem spoken_remainsAll (view : View) (trees : List Tree)
    (each : ∀ tree ∈ trees,
      Tree.spokenAll (view.remains tree).toList = view.expectedText tree) :
    Tree.spokenAll (view.remainsAll trees) = view.expectedTextAll trees := by
  induction trees with
  | nil => simp [remainsAll, expectedTextAll]
  | cons head tail inTail =>
      have atHead := each head List.mem_cons_self
      have atTail := inTail fun tree member =>
        each tree (List.mem_cons_of_mem head member)
      simp [remainsAll, expectedTextAll, atHead, atTail]

section Apart

variable {view : View} (apart : view.joinsLabels = false)
include apart

/-- A node that passes says what its children say. -/
theorem spoken_rebuilt_pass_of_apart (label : String) (kept : List Tree) :
    Tree.spokenAll (view.rebuilt .pass (some label) kept).toList =
      Tree.spokenAll kept := by
  cases kept with
  | nil => simp [rebuilt, Tree.spoken]
  | cons first rest =>
      simp [rebuilt, labeledNode_of_apart apart, Tree.spoken]

/-- Every answer of a step makes a node that says what is expected of it. -/
theorem spoken_finish_of_apart {tree : Tree} (node : tree.isLeaf = false)
    {kept : List Tree} (bare : tree.children = [] → kept = []) :
    Tree.spokenAll (view.finish tree kept).toList =
      view.expectedNode tree (Tree.spokenAll kept) := by
  have stepped := view.stepped_step tree
  unfold finish
  generalize view.step tree = answer at stepped
  cases stepped with
  | word text => simp [Tree.isLeaf] at node
  | sequence children =>
      simp only [spoken_rebuilt_none]
      cases children with
      | nil => simp [expectedNode, Tree.isEmpty, bare rfl]
      | cons first rest =>
          cases trimming : view.trim <;>
            simp [expectedNode, Tree.isEmpty, Tree.labelAmong, Tree.name?,
              trimming]
  | deleted treated => simp [expectedNode, treated]
  | marked space =>
      rw [expectedNode_marked view _ space]
      cases view.trim <;> simp [marked, Tree.spoken]
  | flattened treated word =>
      rw [expectedNode_word view word, treated]
      simp only [flattened_of_apart apart]
      split <;> simp [Tree.spoken]
  | trimFlattened treated word =>
      rw [expectedNode_word view word, treated]
      simp [Tree.spoken]
  | trimmed treated word =>
      rw [expectedNode_word view word, treated]
      exact view.spoken_rebuilt_none .trim kept
  | unboxed treated word =>
      rw [expectedNode_word view word, treated, bare rfl]
      simp [rebuilt, Tree.spoken]
  | passed treated word =>
      rw [expectedNode_word view word, treated]
      exact spoken_rebuilt_pass_of_apart apart _ kept

/-- What is left of a tree says what is expected of it. -/
theorem spoken_remains_of_apart (tree : Tree) :
    Tree.spokenAll (view.remains tree).toList = view.expectedText tree := by
  induction tree using Tree.induction with
  | node tree below =>
      cases word : tree.isLeaf with
      | true =>
          obtain ⟨text, rfl⟩ := (Tree.isLeaf_iff tree).mp word
          simp [remains, expectedText, Tree.spoken]
      | false =>
          have ofChildren :=
            view.spoken_remainsAll tree.children below
          rw [remains_eq_finish,
            spoken_finish_of_apart apart word view.remainsAll_eq_nil,
            ofChildren, expectedText_eq view word]

end Apart

/--
While labels and words stay apart, a reduction that comes to its end leaves
exactly the words that are expected, each of them once and in their order.
-/
theorem surface_reduce (view : View) (limit : Nat) (tree : Tree)
    (left? : Option Tree) (apart : view.joinsLabels = false)
    (success : (view.reduce limit tree).outcome = .ok left?) :
    (left?.map Tree.surface).getD "" = view.expectedText tree := by
  have remaining := eq_remains_of_outcome success
  subst remaining
  rw [← spoken_remains_of_apart apart tree]
  cases view.remains tree <;> simp

/-- A view of spaces and terminators without labels. -/
def spacesAndTerminators : View where
  keepMorphology := true
  showSpaces := true
  showTerminators := true
  showWordClasses := false
  trim := true
  showMainParts := false
  json := false
  plainLeaves := false

/-- A sentence with space, a letter-by-letter word, a terminator and nothing. -/
def spacedSentence : Tree :=
  .labeled "text"
    [ .labeled "initial_spaces" [.leaf " "],
      .labeled "sumti"
        [.labeled "LE" [.leaf "l", .unlabeled [.leaf "o"]], .labeled "KU" []],
      .unlabeled [.unlabeled []] ]

/-- The sentence without its labels. -/
def spacedRemainder : Tree :=
  .unlabeled
    [ .leaf "_",
      .unlabeled [.unlabeled [.leaf "l", .leaf "o"], .leaf "KU"] ]

/-- Space leaves its mark, and the terminator its name. -/
theorem surface_reduce_spacedSentence :
    spacesAndTerminators.joinsLabels = false ∧
      (spacesAndTerminators.reduce 3 spacedSentence).outcome =
        .ok (some spacedRemainder) ∧
      ((some spacedRemainder).map Tree.surface).getD "" =
        spacesAndTerminators.expectedText spacedSentence := by
  have apart : spacesAndTerminators.joinsLabels = false := by rfl
  have success :
      (spacesAndTerminators.reduce 3 spacedSentence).outcome =
        .ok (some spacedRemainder) := by
    rfl
  exact ⟨apart, success, surface_reduce _ 3 _ _ apart success⟩

end View

end LojbanTree
