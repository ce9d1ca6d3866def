import LojbanTree.Proofs.Reduction.Depth
import LojbanTree.Proofs.Reduction.NormalForm

/-!
# Reducing a tree twice

A node is fixed if its step makes it again from its own children.  A tree of
fixed nodes is left as it is, and in a view whose labels are stable every node
that a step makes is fixed.  So a second reduction changes nothing, and it
stays within the limit because the first one did.

Labels are stable if a trimmed tree has none of them, or if an untrimmed tree
keeps them apart from words.  In the second case a terminator whose children
were deleted must not be taken for one that was never spoken, which is why the
structure of words is not kept unless terminators are shown.
-/

namespace LojbanTree

namespace View

/-! ## Fixed nodes -/

/-- Whether the step of a node makes the same node from its children. -/
def Fixed (view : View) (node : Tree) : Prop :=
  view.finish node node.children = some node

theorem fixed_leaf (view : View) (text : String) : view.Fixed (.leaf text) :=
  view.finish_leaf text []

theorem remainsAll_eq_self (view : View) (trees : List Tree)
    (each : ∀ tree ∈ trees, view.remains tree = some tree) :
    view.remainsAll trees = trees := by
  induction trees with
  | nil => simp [remainsAll]
  | cons head tail inTail =>
      have atHead := each head List.mem_cons_self
      have atTail := inTail fun tree member =>
        each tree (List.mem_cons_of_mem head member)
      simp [remainsAll, atHead, atTail]

/-- A tree of fixed nodes is left as it is. -/
theorem remains_eq_self (view : View) (tree : Tree)
    (fixed : ∀ node ∈ tree.nodes, view.Fixed node) :
    view.remains tree = some tree := by
  induction tree using Tree.induction with
  | node tree below =>
      obtain ⟨atRoot, atChildren⟩ :=
        (Tree.forall_mem_nodes_iff view.Fixed tree).mp fixed
      have ofChildren : view.remainsAll tree.children = tree.children := by
        apply view.remainsAll_eq_self
        intro child isChild
        exact below child isChild (atChildren child isChild)
      rw [remains_eq_finish, ofChildren]
      exact atRoot

/-! ## Trimmed trees without labels -/

/-- A normal node without a label is a word or a sequence that stays one. -/
theorem fixed_of_normalNode {view : View} (trimming : view.trim = true)
    {node : Tree} (normal : view.NormalNode node) (unnamed : node.name? = none) :
    view.Fixed node := by
  cases node with
  | leaf text => exact view.fixed_leaf text
  | labeled name children => simp [Tree.name?] at unnamed
  | unlabeled children =>
      have answer : view.step (.unlabeled children) = _ :=
        (Stepped.sequence children).step_eq
      simp only [trimming, if_true] at answer
      rcases children with _ | ⟨first, _ | ⟨second, rest⟩⟩
      · simp [NormalNode] at normal
      · simp [NormalNode] at normal
      · simp [Fixed, finish, answer, Tree.children, rebuilt]

/-- Without labels that it asks for, a trimmed view leaves fixed nodes only. -/
theorem fixed_of_trimmed {view : View} (trimming : view.trim = true)
    (noClasses : view.showWordClasses = false)
    (noParts : view.showMainParts = false)
    {tree result : Tree} (left : view.remains tree = some result) :
    ∀ node ∈ result.nodes, view.Fixed node := by
  have normal : ∀ node ∈ result.nodes, view.NormalNode node :=
    view.forall_nodes_remains view.NormalNode (fun _ => trivial)
      (fun _ _ _ => normalNode_finish trimming) tree result left
  intro node member
  apply fixed_of_normalNode trimming (normal node member)
  exact name?_eq_none_of_normalNode noClasses noParts (normal node member)

/-! ## Untrimmed trees -/

section Untrimmed

variable {view : View} (untrimmed : view.trim = false)
include untrimmed

theorem shownName_of_untrimmed (name : String) : view.shownName name = name := by
  simp [shownName, shortName?, untrimmed]

/-- Without trimming there are three treatments left. -/
theorem treatment_of_untrimmed (tree : Tree) :
    view.treatment tree =
      if view.deletes tree then .delete
      else if view.flattens tree then .flatten
      else .pass := by
  have kept : view.trims tree = false := by simp [trims, untrimmed]
  unfold treatment
  split
  · rfl
  · cases flattened : view.flattens tree <;> simp [kept, untrimmed]

theorem treatment_cases_of_untrimmed {tree : Tree} {treatment : Treatment}
    (treated : view.treatment tree = treatment) :
    treatment = .delete ∨ treatment = .flatten ∨ treatment = .pass := by
  rw [← treated, treatment_of_untrimmed untrimmed]
  split
  · exact .inl rfl
  · split
    · exact .inr (.inl rfl)
    · exact .inr (.inr rfl)

/--
A node that passes does so without its children, unless the walk would take it
for a terminator that was never spoken.
-/
theorem treatment_of_untrimmed_passed
    (stable : view.keepMorphology = false ∨ view.showTerminators = true)
    {name : String} {children : List Tree} (kept : List Tree)
    (treated : view.treatment (.labeled name children) = .pass) :
    view.treatment (.labeled name kept) = .pass := by
  rw [treatment_of_untrimmed untrimmed] at treated ⊢
  split at treated
  case isTrue => simp at treated
  case isFalse remaining =>
  split at treated
  case isTrue => simp at treated
  case isFalse unflattened =>
    have noWord : view.flattens (.labeled name kept) = false :=
      (Bool.not_eq_true _).mp unflattened
    have notDeleted : view.deletes (.labeled name kept) = false := by
      simp only [deletes, Bool.or_eq_true, not_or, Bool.not_eq_true] at remaining ⊢
      rw [Bool.or_eq_false_iff]
      constructor
      · exact remaining.1
      · rcases stable with flattening | shown
        · simp [flattens, flattening] at noWord
          simp [noWord]
        · simp [shown]
    simp [notDeleted, noWord]

/-- What an untrimmed view makes of a node over fixed nodes is fixed. -/
theorem fixed_finish_of_untrimmed (apart : view.joinsLabels = false)
    (stable : view.keepMorphology = false ∨ view.showTerminators = true)
    {tree : Tree} {kept : List Tree} {result : Tree}
    (left : view.finish tree kept = some result) : view.Fixed result := by
  have stepped := view.stepped_step tree
  unfold finish at left
  generalize view.step tree = answer at stepped left
  cases stepped with
  | word text =>
      simp only [Option.some.injEq] at left
      subst result
      exact view.fixed_leaf text
  | sequence children =>
      have answer : view.step (.unlabeled kept) = _ :=
        (Stepped.sequence kept).step_eq
      simp only [untrimmed, Bool.false_eq_true, if_false] at answer left
      have same : result = .unlabeled kept := by
        match kept with
        | [] => simp [rebuilt] at left
        | [only] => simpa [rebuilt] using left.symm
        | first :: second :: rest => simpa [rebuilt] using left.symm
      subst result
      simpa [Fixed, finish, answer, Tree.children] using left
  | deleted treated => simp at left
  | @marked name mark children space =>
      have answer : view.step (.labeled name [.leaf mark]) = _ :=
        (Stepped.marked space).step_eq
      simp only [untrimmed, Bool.false_eq_true, if_false, marked,
        Option.some.injEq]
        at answer left
      subst result
      simp [Fixed, finish, answer]
  | @flattened name children treated word =>
      rw [shownName_of_untrimmed untrimmed, flattened_of_apart apart,
        Option.some.injEq] at left
      split at left
      case isTrue silent =>
        subst result
        exact view.fixed_leaf name
      case isFalse spoken =>
        have inhabited :
            children.isEmpty = [Tree.leaf (Tree.spokenAll children)].isEmpty := by
          cases children with
          | nil => simp at spoken
          | cons first rest => rfl
        have again :=
          (view.treatment_labeled_congr name inhabited).symm.trans treated
        have answer := (Stepped.flattened again word).step_eq
        subst result
        simp [Fixed, finish, answer, shownName_of_untrimmed untrimmed,
          flattened_of_apart apart, Tree.spoken, spoken]
  | trimFlattened treated word | trimmed treated word | unboxed treated word =>
      have whole := treatment_cases_of_untrimmed untrimmed treated
      simp at whole
  | @passed name children treated word =>
      have again := treatment_of_untrimmed_passed untrimmed stable kept treated
      have answer := (Stepped.passed again word).step_eq
      have same : result = .labeled name kept := by
        rw [shownName_of_untrimmed untrimmed] at left
        cases kept with
        | nil => simpa [rebuilt] using left.symm
        | cons first rest =>
            simpa [rebuilt, labeledNode_of_apart apart] using left.symm
      subst result
      simpa [Fixed, finish, answer, Tree.children] using left

end Untrimmed

/-! ## Stable labels -/

/-- Whether a second reduction finds the labels that the first one has left. -/
def HasStableLabels (view : View) : Prop :=
  (view.trim = true ∧ view.showWordClasses = false ∧ view.showMainParts = false) ∨
    (view.trim = false ∧ view.joinsLabels = false ∧
      (view.keepMorphology = false ∨ view.showTerminators = true))

/-- With stable labels every node that is left is fixed. -/
theorem fixed_of_hasStableLabels {view : View} (stable : view.HasStableLabels)
    {tree result : Tree} (left : view.remains tree = some result) :
    ∀ node ∈ result.nodes, view.Fixed node := by
  rcases stable with
    ⟨trimming, noClasses, noParts⟩ | ⟨untrimmed, apart, terminators⟩
  · exact fixed_of_trimmed trimming noClasses noParts left
  · apply view.forall_nodes_remains view.Fixed view.fixed_leaf _ tree result left
    intro tree kept result _ _ made
    exact fixed_finish_of_untrimmed untrimmed apart terminators made

/--
A second reduction of what a first one has left changes nothing and is not
given up, as long as the labels are stable.
-/
theorem reduce_reduce (view : View) (limit : Nat) (tree result : Tree)
    (stable : view.HasStableLabels)
    (left : (view.reduce limit tree).outcome = .ok (some result)) :
    (view.reduce limit result).outcome = .ok (some result) := by
  have remaining := (eq_remains_of_outcome left).symm
  have fixed := fixed_of_hasStableLabels stable remaining
  rw [view.outcome_reduce_of_nesting_le (nesting_le_of_outcome left),
    view.remains_eq_self result fixed]

/-- A view of whole trees with all terminators and without spaces. -/
def wholeTrees : View where
  keepMorphology := true
  showSpaces := false
  showTerminators := true
  showWordClasses := false
  trim := false
  showMainParts := false
  json := true
  plainLeaves := false

/-- A sentence with a terminator that has nothing but space below it. -/
def hollowSentence : Tree :=
  .labeled "sentence"
    [ .labeled "sumti" [.labeled "KOhA" [.leaf "m", .unlabeled [.leaf "i"]]],
      .labeled "KU" [.labeled "spaces" [.leaf " "]],
      .unlabeled [.unlabeled []] ]

/-- The sentence with its terminator bare. -/
def hollowRemainder : Tree :=
  .labeled "sentence"
    [ .labeled "sumti" [.labeled "KOhA" [.leaf "m", .unlabeled [.leaf "i"]]],
      .labeled "KU" [] ]

/-- A terminator that has become bare stays, because terminators are shown. -/
theorem reduce_reduce_hollowSentence :
    wholeTrees.HasStableLabels ∧
      (wholeTrees.reduce 3 hollowSentence).outcome =
        .ok (some hollowRemainder) ∧
      (wholeTrees.reduce 3 hollowRemainder).outcome =
        .ok (some hollowRemainder) := by
  have stable : wholeTrees.HasStableLabels := .inr ⟨rfl, rfl, .inr rfl⟩
  have left :
      (wholeTrees.reduce 3 hollowSentence).outcome =
        .ok (some hollowRemainder) := by
    rfl
  exact ⟨stable, left, reduce_reduce wholeTrees 3 _ _ stable left⟩

end View

end LojbanTree
