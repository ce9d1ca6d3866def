import LojbanTree.Proofs.Reduction.Stability

/-!
# Reducing a tree in two stages

A tree can first be reduced to a whole tree, with spaces and terminators dealt
with and words in one piece, and be trimmed later.  `View.reduce_prepared` says
that the later reduction leaves what it would have left of the tree itself.

The first stage may empty a node, shorten it, or put a word in place of its
letters, but no node gets another treatment in the second stage for that.  The
exception is a word without any text: in the first stage its label becomes a
word, and nothing tells it from a spoken one afterwards.
-/

namespace LojbanTree

namespace Tree

/-- Whether a node that stands for a word has some text below it. -/
def Voiced (node : Tree) : Prop :=
  node.labelAmong Label.morphology = true ∨
      (node.hasWordClass = true ∧ node.children ≠ []) →
    node.surface ≠ ""

end Tree

namespace View

/--
Whether the first view leaves whole trees that the second one can trim: they
agree on spaces and terminators, and neither keeps the structure of words or
the labels of the main parts of a sentence.
-/
structure Prepares (first second : View) : Prop where
  whole : first.trim = false
  firstWords : first.keepMorphology = false
  firstClasses : first.showWordClasses = false
  firstParts : first.showMainParts = false
  trimming : second.trim = true
  secondWords : second.keepMorphology = false
  secondParts : second.showMainParts = false
  spaces : first.showSpaces = second.showSpaces
  terminators : first.showTerminators = second.showTerminators

theorem remains_of_settled {view : View} {tree : Tree} {result : Option Tree}
    (stepped : view.Stepped tree (.settled result)) :
    view.remains tree = result := by
  rw [remains_eq_finish, finish, stepped.step_eq]

theorem remains_of_rebuild {view : View} {tree : Tree} {treatment : Treatment}
    {label? : Option String}
    (stepped : view.Stepped tree (.rebuild treatment label?)) :
    view.remains tree =
      view.rebuilt treatment label? (view.remainsAll tree.children) := by
  rw [remains_eq_finish, finish, stepped.step_eq]

/-- What two stages leave of each tree of a list, they leave of the list. -/
theorem remainsAll_remainsAll {first second : View} (trees : List Tree)
    (each : ∀ tree ∈ trees,
      (first.remains tree).bind second.remains = second.remains tree) :
    second.remainsAll (first.remainsAll trees) = second.remainsAll trees := by
  induction trees with
  | nil => simp [remainsAll]
  | cons head tail inTail =>
      have atHead := each head List.mem_cons_self
      have atTail := inTail fun tree member =>
        each tree (List.mem_cons_of_mem head member)
      cases left : first.remains head with
      | none =>
          rw [left, Option.bind_none] at atHead
          simp [remainsAll, left, ← atHead, atTail]
      | some kept =>
          rw [left, Option.bind_some] at atHead
          simp [remainsAll, left, atHead, atTail]

namespace Prepares

variable {first second : View} (prepares : first.Prepares second)
include prepares

/-! ## Treatments in the two stages -/

theorem joinsLabels_eq_false : first.joinsLabels = false := by
  simp [joinsLabels, prepares.firstClasses, prepares.firstParts]

/-- Both stages delete the same nodes. -/
theorem deletes_eq (tree : Tree) : first.deletes tree = second.deletes tree := by
  simp only [deletes, prepares.spaces, prepares.terminators]

theorem flattens_eq (tree : Tree) :
    first.flattens tree = second.flattens tree := by
  simp only [flattens, prepares.firstWords, prepares.secondWords]

theorem placeholder?_eq (name : String) :
    first.placeholder? name = second.placeholder? name := by
  simp only [placeholder?, prepares.spaces]

theorem treatment_delete {tree : Tree} (treated : first.treatment tree = .delete) :
    second.treatment tree = .delete := by
  have grounds := first.grounds_treatment tree
  rw [treated, Grounds, prepares.deletes_eq] at grounds
  simp [treatment, grounds]

/-- The second stage has no use for the label of a node that is no word. -/
theorem trims_of_no_word {name : String} (noClass : Label.isWordClass name = false)
    (noWord : Label.among name Label.morphology = false) (children : List Tree) :
    second.trims (.labeled name children) = true := by
  have notKept : Label.among name second.keptLabels = false := by
    cases classes : second.showWordClasses with
    | true => simpa [keptLabels, prepares.secondParts, classes] using noWord
    | false => simp [keptLabels, prepares.secondParts, classes, Label.among]
  simp [trims, prepares.trimming, Tree.hasWordClass, Tree.labelAmong, Tree.name?,
    noClass, notKept]

/-- A label that passes the first stage is trimmed in the second, over anything. -/
theorem treatment_trim {name : String} {children : List Tree} (kept : List Tree)
    (treated : first.treatment (.labeled name children) = .pass) :
    second.treatment (.labeled name kept) = .trim := by
  have passed := treatment_of_untrimmed_passed prepares.whole
    (.inl prepares.firstWords) kept treated
  rw [treatment_of_untrimmed prepares.whole, prepares.deletes_eq,
    prepares.flattens_eq] at passed
  split at passed
  case isTrue => simp at passed
  case isFalse remaining =>
  split at passed
  case isTrue => simp at passed
  case isFalse unflattened =>
    have noWord :
        Label.isWordClass name = false ∧
          Label.among name Label.morphology = false := by
      simpa only [flattens, prepares.secondWords, Tree.hasWordClass,
        Tree.labelAmong, Tree.name?, Option.any_some, Bool.not_false,
        Bool.true_and, Bool.or_eq_true, not_or, Bool.not_eq_true] using unflattened
    have trimmed := prepares.trims_of_no_word noWord.1 noWord.2 kept
    simp [treatment, remaining, unflattened, trimmed]

/--
What the first stage flattens, the second flattens too, with or without its label.
-/
theorem treatment_flatten {tree : Tree}
    (treated : first.treatment tree = .flatten) :
    second.treatment tree = .flatten ∨ second.treatment tree = .trimFlatten := by
  rw [treatment_of_untrimmed prepares.whole, prepares.deletes_eq,
    prepares.flattens_eq] at treated
  split at treated
  case isTrue => simp at treated
  case isFalse remaining =>
  split at treated
  case isFalse => simp at treated
  case isTrue flattened =>
    cases trimmed : second.trims tree with
    | true => exact .inr (by simp [treatment, remaining, flattened, trimmed])
    | false => exact .inl (by simp [treatment, remaining, flattened, trimmed])

/-! ## What is left after both stages -/

theorem remains_unlabeled (children : List Tree) :
    second.remains (.unlabeled children) =
      second.rebuilt .trim none (second.remainsAll children) := by
  have answer : second.Stepped (.unlabeled children) _ := .sequence children
  rw [remains_of_rebuild answer]
  simp [prepares.trimming, Tree.children]

/-- The second stage looks only at the text of a word. -/
theorem remains_flattened {name : String} {children : List Tree}
    (treated : first.treatment (.labeled name children) = .flatten)
    (word : second.placeholder? name = none)
    (spoken : Tree.spokenAll children ≠ "") :
    second.remains (.labeled name [.leaf (Tree.spokenAll children)]) =
      second.remains (.labeled name children) := by
  have alike :
      [Tree.leaf (Tree.spokenAll children)].isEmpty = children.isEmpty := by
    cases children with
    | nil => simp at spoken
    | cons head tail => rfl
  have same := second.treatment_labeled_congr name alike
  rcases prepares.treatment_flatten treated with flattened | flattened
  · rw [remains_of_settled (.flattened flattened word),
      remains_of_settled (.flattened (same.trans flattened) word)]
    simp [Tree.spoken]
  · rw [remains_of_settled (.trimFlattened flattened word),
      remains_of_settled (.trimFlattened (same.trans flattened) word)]
    simp [Tree.spoken]

/-- A terminator without a word is shown under its name in both stages. -/
theorem remains_terminator {name : String}
    (treated : first.treatment (.labeled name []) = .flatten)
    (word : second.placeholder? name = none)
    (isClass : Label.isWordClass name = true) :
    second.remains (.labeled name []) = some (.leaf name) := by
  have notDeleted : second.deletes (.labeled name []) = false := by
    rw [treatment_of_untrimmed prepares.whole, prepares.deletes_eq] at treated
    split at treated
    case isTrue => simp at treated
    case isFalse remaining => simpa using remaining
  have shown : second.showTerminators = true := by
    rw [deletes, Bool.or_eq_false_iff] at notDeleted
    simpa [Tree.hasWordClass, Tree.name?, isClass] using notDeleted.2
  have kept : second.trims (.labeled name []) = false := by
    simp [trims, shown, Tree.hasWordClass, Tree.name?, isClass]
  rcases prepares.treatment_flatten treated with flattened | flattened
  · rw [remains_of_settled (.flattened flattened word)]
    simp [View.flattened, second.shownName_of_isWordClass isClass]
  · have grounds := second.grounds_treatment (.labeled name [])
    rw [flattened] at grounds
    simp [Grounds, kept] at grounds

/--
A word is the same after both stages, whether it has been spoken or not.  A silent
one is no word of the morphology: it is a word class over nothing.
-/
theorem bind_remains_flattened {name : String} {children : List Tree}
    (treated : first.treatment (.labeled name children) = .flatten)
    (word : second.placeholder? name = none)
    (voiced : (Tree.labeled name children).Voiced) :
    second.remains (first.flattened (some name) (Tree.spokenAll children)) =
      second.remains (.labeled name children) := by
  rw [flattened_of_apart prepares.joinsLabels_eq_false]
  split
  case isFalse spoken => exact prepares.remains_flattened treated word spoken
  case isTrue silent =>
    have isWord :
        Label.isWordClass name = true ∨ name ∈ Label.morphology := by
      have grounds := first.grounds_treatment (.labeled name children)
      rw [treated] at grounds
      simpa [flattens, prepares.firstWords, Tree.hasWordClass, Tree.labelAmong,
        Tree.name?] using grounds.1
    have unvoiced :
        ¬ (name ∈ Label.morphology ∨
          (Label.isWordClass name = true ∧ children ≠ [])) := by
      intro mustSpeak
      apply voiced
      · simpa [Tree.labelAmong, Tree.hasWordClass, Tree.name?, Tree.children]
          using mustSpeak
      · simpa [Tree.spoken] using silent
    have isClass : Label.isWordClass name = true := by
      rcases isWord with isClass | listed
      · exact isClass
      · exact (unvoiced (.inl listed)).elim
    have nothing : children = [] := by
      apply Decidable.of_not_not
      intro inhabited
      exact unvoiced (.inr ⟨isClass, inhabited⟩)
    subst nothing
    rw [prepares.remains_terminator treated word isClass,
      remains_of_isLeaf second rfl]

/-- A node that passes the first stage is trimmed over what is left below it. -/
theorem bind_remains_passed {name : String} {children kept : List Tree}
    (treated : first.treatment (.labeled name children) = .pass)
    (word : second.placeholder? name = none)
    (below : second.remainsAll kept = second.remainsAll children) :
    (first.rebuilt .pass (some name) kept).bind second.remains =
      second.remains (.labeled name children) := by
  have made :
      first.rebuilt .pass (some name) kept = some (.labeled name kept) := by
    cases kept with
    | nil => simp [rebuilt]
    | cons head tail =>
        simp [rebuilt, labeledNode_of_apart prepares.joinsLabels_eq_false]
  rw [made, Option.bind_some,
    remains_of_rebuild (.trimmed (prepares.treatment_trim kept treated) word),
    remains_of_rebuild (.trimmed (prepares.treatment_trim children treated) word)]
  simp [Tree.children, below]

/-- A sequence is trimmed over what is left below it, if anything is. -/
theorem bind_remains_sequence {children kept : List Tree}
    (below : second.remainsAll kept = second.remainsAll children) :
    (first.rebuilt .pass none kept).bind second.remains =
      second.remains (.unlabeled children) := by
  rw [prepares.remains_unlabeled, ← below, ← prepares.remains_unlabeled]
  match kept with
  | [] =>
      rw [prepares.remains_unlabeled]
      simp [rebuilt, remainsAll]
  | [only] => simp [rebuilt]
  | head :: next :: tail => simp [rebuilt]

/-- Both stages together leave what the second one leaves by itself. -/
theorem bind_remains (tree : Tree) (voiced : ∀ node ∈ tree.nodes, node.Voiced) :
    (first.remains tree).bind second.remains = second.remains tree := by
  induction tree using Tree.induction with
  | node tree below =>
      obtain ⟨atRoot, atChildren⟩ :=
        (Tree.forall_mem_nodes_iff Tree.Voiced tree).mp voiced
      have ofChildren :
          second.remainsAll (first.remainsAll tree.children) =
            second.remainsAll tree.children := by
        apply remainsAll_remainsAll
        intro child isChild
        exact below child isChild (atChildren child isChild)
      have stepped := first.stepped_step tree
      rw [remains_eq_finish first, finish]
      generalize first.step tree = answer at stepped
      cases stepped with
      | word text => rfl
      | sequence children =>
          simp only [prepares.whole, Bool.false_eq_true, if_false]
          exact prepares.bind_remains_sequence ofChildren
      | deleted treated =>
          have deleted := prepares.treatment_delete treated
          rw [remains_of_settled (.deleted deleted)]
          rfl
      | @marked name mark children space =>
          rw [prepares.placeholder?_eq] at space
          have later (below : List Tree) :
              second.remains (.labeled name below) =
                some (marked (if second.trim then none else some name) mark) :=
            remains_of_settled (.marked space)
          rw [later]
          simp only [prepares.whole, Bool.false_eq_true, if_false]
          exact later [.leaf mark]
      | flattened treated word =>
          rw [prepares.placeholder?_eq] at word
          rw [shownName_of_untrimmed prepares.whole, Option.bind_some]
          exact prepares.bind_remains_flattened treated word atRoot
      | trimFlattened treated word | trimmed treated word | unboxed treated word =>
          have whole := treatment_cases_of_untrimmed prepares.whole treated
          simp at whole
      | passed treated word =>
          rw [prepares.placeholder?_eq] at word
          rw [shownName_of_untrimmed prepares.whole]
          exact prepares.bind_remains_passed treated word ofChildren

end Prepares

/--
A tree within the limit can be reduced in two stages.  If the first leaves
nothing, so does the second by itself; and what the second leaves of the
remainder, it leaves of the tree.
-/
theorem reduce_prepared (first second : View) (limit : Nat) (tree : Tree)
    (prepares : first.Prepares second) (within : tree.nesting ≤ limit)
    (voiced : ∀ node ∈ tree.nodes, node.Voiced) :
    ∃ stage? left?,
      (first.reduce limit tree).outcome = .ok stage? ∧
        (second.reduce limit tree).outcome = .ok left? ∧
        (stage? = none → left? = none) ∧
        ∀ stage, stage? = some stage →
          (second.reduce limit stage).outcome = .ok left? := by
  have both := prepares.bind_remains tree voiced
  have staged := first.outcome_reduce_of_nesting_le within
  have left := second.outcome_reduce_of_nesting_le within
  refine ⟨_, _, staged, left, ?_, ?_⟩
  · intro nothing
    rw [nothing] at both
    exact both.symm
  · intro stage remaining
    rw [remaining] at both staged
    rw [second.outcome_reduce_of_nesting_le (nesting_le_of_outcome staged)]
    exact congrArg Except.ok both

/-- A view of whole trees with spaces and terminators. -/
def wholeSpaces : View where
  keepMorphology := false
  showSpaces := true
  showTerminators := true
  showWordClasses := false
  trim := false
  showMainParts := false
  json := true
  plainLeaves := false

/-- The trimmed view of the same with word classes. -/
def trimmedClasses : View where
  keepMorphology := false
  showSpaces := true
  showTerminators := true
  showWordClasses := true
  trim := true
  showMainParts := false
  json := false
  plainLeaves := false

/--
A sentence of a word letter by letter and a terminator, with space and nothing.
-/
def spelledSentence : Tree :=
  .labeled "sentence"
    [ .labeled "initial_spaces" [.leaf " "],
      .labeled "sumti" [.labeled "gismu" [.leaf "ger", .unlabeled [.leaf "ku"]]],
      .labeled "KU" [],
      .unlabeled [.unlabeled []] ]

/-- The sentence after the first stage. -/
def spelledStage : Tree :=
  .labeled "sentence"
    [ .labeled "initial_spaces" [.leaf "_"],
      .labeled "sumti" [.labeled "gismu" [.leaf "gerku"]],
      .leaf "KU" ]

/-- The sentence after both stages. -/
def spelledRemainder : Tree :=
  .unlabeled [.leaf "_", .leaf "G:gerku", .leaf "KU"]

/-- Space, the word and the terminator come out as they do in one stage. -/
theorem reduce_prepared_spelledSentence :
    wholeSpaces.Prepares trimmedClasses ∧
      spelledSentence.nesting ≤ 3 ∧
      (∀ node ∈ spelledSentence.nodes, node.Voiced) ∧
      (wholeSpaces.reduce 3 spelledSentence).outcome = .ok (some spelledStage) ∧
      (trimmedClasses.reduce 3 spelledSentence).outcome =
        .ok (some spelledRemainder) ∧
      (trimmedClasses.reduce 3 spelledStage).outcome =
        .ok (some spelledRemainder) := by
  have prepares : wholeSpaces.Prepares trimmedClasses := by
    constructor <;> rfl
  have within : spelledSentence.nesting ≤ 3 := by decide
  have voiced : ∀ node ∈ spelledSentence.nodes, node.Voiced := by
    simp [spelledSentence, Tree.nodes, Tree.nodesAll, Tree.Voiced, Tree.spoken,
      Tree.spokenAll, Tree.children, Tree.hasWordClass, Tree.labelAmong,
      Tree.name?, Label.isWordClass, Label.morphology]
  have staged :
      (wholeSpaces.reduce 3 spelledSentence).outcome =
        .ok (some spelledStage) := by
    with_unfolding_all rfl
  have left :
      (trimmedClasses.reduce 3 spelledSentence).outcome =
        .ok (some spelledRemainder) := by
    with_unfolding_all rfl
  obtain ⟨stage?, left?, isStage, isLeft, _, later⟩ :=
    reduce_prepared _ _ 3 _ prepares within voiced
  rw [staged, Except.ok.injEq] at isStage
  rw [left, Except.ok.injEq] at isLeft
  have again := later spelledStage isStage.symm
  rw [← isLeft] at again
  exact ⟨prepares, within, voiced, staged, left, again⟩

end View

end LojbanTree
