import LojbanTree.Proofs.Tree.Nodes
import LojbanTree.Reduction.Basic

/-!
# What can become of a node

`View.step` is all that a reduction asks about a node before it turns to the
children.  `View.Stepped` lists its answers, one constructor for each, together
with the reason for the answer; every node has exactly one of them, and it is
the answer of the step.  What a treatment tells about a view and a node is
stated once, in `View.Grounds`, so that no later proof looks into the table of
treatments.
-/

namespace LojbanTree

namespace View

/-! ## The grounds of a treatment -/

/-- What a view must find in a node to treat it in the given way. -/
def Grounds (view : View) (tree : Tree) : Treatment → Prop
  | .delete => view.deletes tree = true
  | .trim => view.flattens tree = false ∧ view.trims tree = true
  | .flatten => view.flattens tree = true ∧ view.trims tree = false
  | .trimFlatten => view.flattens tree = true ∧ view.trims tree = true
  | .unbox =>
      view.flattens tree = false ∧ view.trims tree = false ∧
        view.trim = true ∧ tree.isBare = true
  | .pass =>
      view.flattens tree = false ∧ view.trims tree = false ∧
        (view.trim = false ∨ tree.isBare = false)

/--
Every treatment has its grounds in what the view deletes, flattens and trims.
-/
theorem grounds_treatment (view : View) (tree : Tree) :
    view.Grounds tree (view.treatment tree) := by
  unfold treatment
  split
  case isTrue deleted => exact deleted
  case isFalse =>
    split
    case h_4 flattened trimmed =>
      split
      case isTrue unboxed =>
        obtain ⟨trimming, bare⟩ := Bool.and_eq_true_iff.mp unboxed
        exact ⟨flattened, trimmed, trimming, bare⟩
      case isFalse kept =>
        exact ⟨flattened, trimmed, Bool.and_eq_false_iff.mp (by simpa using kept)⟩
    all_goals exact ⟨‹_›, ‹_›⟩

/-- A sequence has no label, so that only trimming can matter to it. -/
@[simp]
theorem treatment_unlabeled (view : View) (children : List Tree) :
    view.treatment (.unlabeled children) =
      if view.trim then .trim else .pass := by
  cases trimming : view.trim <;>
    simp [treatment, deletes, flattens, trims, Tree.hasWordClass,
      Tree.labelAmong, Tree.name?, trimming]

@[simp]
theorem isBare_labeled (name : String) (children : List Tree) :
    (Tree.labeled name children).isBare = children.isEmpty := by
  cases children <;> simp [Tree.isBare, Tree.arity]

theorem treatment_labeled_unbox {view : View} {name : String}
    {children : List Tree}
    (treated : view.treatment (.labeled name children) = .unbox) :
    children = [] := by
  have grounds := view.grounds_treatment (.labeled name children)
  rw [treated] at grounds
  obtain ⟨_, _, _, bare⟩ := grounds
  simpa using bare

/--
The treatment looks at the label of a node and whether there is anything below.
-/
theorem treatment_labeled_congr (view : View) (name : String)
    {left right : List Tree} (alike : left.isEmpty = right.isEmpty) :
    view.treatment (.labeled name left) =
      view.treatment (.labeled name right) := by
  simp only [treatment, deletes, flattens, trims, Tree.hasWordClass,
    Tree.labelAmong, Tree.name?, isBare_labeled, alike]

/-! ## Labels that stay apart from words -/

theorem labeledNode_of_apart {view : View} (apart : view.joinsLabels = false)
    (label : String) (kept : List Tree) :
    view.labeledNode label kept = .labeled label kept := by
  unfold labeledNode
  split <;> simp [apart]

theorem flattened_of_apart {view : View} (apart : view.joinsLabels = false)
    (label text : String) :
    view.flattened (some label) text =
      if text = "" then .leaf label else .labeled label [.leaf text] := by
  simp [flattened, apart]

/-! ## Marks for space -/

theorem placeholder?_eq_some_iff (view : View) (name mark : String) :
    view.placeholder? name = some mark ↔
      view.showSpaces = true ∧ name ∈ Label.spaces ∧ mark = Label.spaceMark := by
  unfold placeholder?
  split
  case isTrue shown =>
    simp only [Bool.and_eq_true, Label.among_iff] at shown
    simp [shown, eq_comm]
  case isFalse hidden =>
    simp only [Bool.and_eq_true, Label.among_iff] at hidden
    simp only [reduceCtorEq, false_iff]
    rintro ⟨shown, space, _⟩
    exact hidden ⟨shown, space⟩

theorem hasWordClass_of_space {name : String} (children : List Tree)
    (space : name ∈ Label.spaces) :
    (Tree.labeled name children).hasWordClass = false := by
  have noClass : ∀ label ∈ Label.spaces,
      Label.isWordClass label = false := by decide
  simpa [Tree.hasWordClass, Tree.name?] using noClass name space

theorem labelAmong_of_space {name : String} (children : List Tree)
    (space : name ∈ Label.spaces) (names : List String)
    (apart : ∀ label ∈ Label.spaces, label ∉ names) :
    (Tree.labeled name children).labelAmong names = false := by
  simpa [Tree.labelAmong, Tree.name?, Label.among] using apart name space

theorem not_mem_keptLabels_of_space (view : View) :
    ∀ label ∈ Label.spaces, label ∉ view.keptLabels := by
  cases classes : view.showWordClasses <;> cases parts : view.showMainParts <;>
    simp only [keptLabels, classes, parts] <;> decide

/-- Space that is shown is trimmed or kept, like a sequence. -/
theorem treatment_of_space (view : View) {name : String} (children : List Tree)
    (shown : view.showSpaces = true) (space : name ∈ Label.spaces) :
    view.treatment (.labeled name children) =
      if view.trim then .trim else .pass := by
  have noClass := hasWordClass_of_space children space
  have noWord := labelAmong_of_space children space Label.morphology (by decide)
  have noLabel := labelAmong_of_space children space view.keptLabels
    view.not_mem_keptLabels_of_space
  cases trimming : view.trim <;>
    simp [treatment, deletes, flattens, trims, shown, noClass, noWord, noLabel,
      trimming]

/-! ## The answers of a step -/

/-- The answers to what becomes of a node, each with its reason. -/
inductive Stepped (view : View) : Tree → Step → Prop where
  | word (text : String) :
      Stepped view (.leaf text) (.settled (some (.leaf text)))
  | sequence (children : List Tree) :
      Stepped view (.unlabeled children)
        (.rebuild (if view.trim then .trim else .pass) none)
  | deleted {name : String} {children : List Tree}
      (treated : view.treatment (.labeled name children) = .delete) :
      Stepped view (.labeled name children) (.settled none)
  | marked {name mark : String} {children : List Tree}
      (space : view.placeholder? name = some mark) :
      Stepped view (.labeled name children)
        (.settled (some (marked (if view.trim then none else some name) mark)))
  | flattened {name : String} {children : List Tree}
      (treated : view.treatment (.labeled name children) = .flatten)
      (word : view.placeholder? name = none) :
      Stepped view (.labeled name children)
        (.settled (some (view.flattened (some (view.shownName name))
          (Tree.spokenAll children))))
  | trimFlattened {name : String} {children : List Tree}
      (treated : view.treatment (.labeled name children) = .trimFlatten)
      (word : view.placeholder? name = none) :
      Stepped view (.labeled name children)
        (.settled (some (.leaf (Tree.spokenAll children))))
  | trimmed {name : String} {children : List Tree}
      (treated : view.treatment (.labeled name children) = .trim)
      (word : view.placeholder? name = none) :
      Stepped view (.labeled name children) (.rebuild .trim none)
  | unboxed {name : String}
      (treated : view.treatment (.labeled name []) = .unbox)
      (word : view.placeholder? name = none) :
      Stepped view (.labeled name [])
        (.rebuild .unbox (some (view.shownName name)))
  | passed {name : String} {children : List Tree}
      (treated : view.treatment (.labeled name children) = .pass)
      (word : view.placeholder? name = none) :
      Stepped view (.labeled name children)
        (.rebuild .pass (some (view.shownName name)))

/-- A step gives no other answer. -/
theorem Stepped.step_eq {view : View} {tree : Tree} {answer : Step}
    (stepped : view.Stepped tree answer) : view.step tree = answer := by
  cases stepped with
  | word text => simp [step, Tree.isLeaf]
  | sequence children =>
      cases trimming : view.trim <;>
        simp [step, Tree.isLeaf, Tree.name?, keptLabel?, trimming]
  | deleted treated => simp [step, Tree.isLeaf, treated]
  | @marked name mark children space =>
      obtain ⟨shown, isSpace, _⟩ :=
        (view.placeholder?_eq_some_iff name mark).mp space
      have treated := view.treatment_of_space children shown isSpace
      cases trimming : view.trim <;>
        simp [step, Tree.isLeaf, Tree.name?, treated, space, keptLabel?, shownName,
          shortName?, trimming]
  | flattened treated word =>
      simp [step, Tree.isLeaf, Tree.name?, treated, word, keptLabel?, Tree.spoken]
  | trimFlattened treated word =>
      simp [step, Tree.isLeaf, Tree.name?, treated, word, Tree.spoken]
  | trimmed treated word =>
      simp [step, Tree.isLeaf, Tree.name?, treated, word, keptLabel?]
  | unboxed treated word =>
      simp [step, Tree.isLeaf, Tree.name?, treated, word, keptLabel?]
  | passed treated word =>
      simp [step, Tree.isLeaf, Tree.name?, treated, word, keptLabel?]

/-- There is an answer for every node. -/
theorem exists_stepped (view : View) (tree : Tree) :
    ∃ answer, view.Stepped tree answer := by
  cases tree with
  | leaf text => exact ⟨_, .word text⟩
  | unlabeled children => exact ⟨_, .sequence children⟩
  | labeled name children =>
      cases space : view.placeholder? name with
      | some mark => exact ⟨_, .marked space⟩
      | none =>
          cases treated : view.treatment (.labeled name children) with
          | delete => exact ⟨_, .deleted treated⟩
          | trim => exact ⟨_, .trimmed treated space⟩
          | flatten => exact ⟨_, .flattened treated space⟩
          | trimFlatten => exact ⟨_, .trimFlattened treated space⟩
          | unbox =>
              obtain rfl := treatment_labeled_unbox treated
              exact ⟨_, .unboxed treated space⟩
          | pass => exact ⟨_, .passed treated space⟩

/-- Every step gives one of the answers. -/
theorem stepped_step (view : View) (tree : Tree) :
    view.Stepped tree (view.step tree) := by
  obtain ⟨answer, stepped⟩ := view.exists_stepped tree
  rw [stepped.step_eq]
  exact stepped

end View

end LojbanTree
