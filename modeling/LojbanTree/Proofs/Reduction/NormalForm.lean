import LojbanTree.Proofs.Reduction.Remainder

/-!
# The form of trimmed trees

A trimmed tree has no sequence of fewer than two elements, and no label but
those that the view asks for, each under the short name that it is shown under.
A label that was set before a word with a colon ends in a colon itself.
`View.NormalNode` says this of one node, and `View.normal_of_reduce` of all
nodes of a reduced tree.
-/

namespace LojbanTree

namespace View

/-! ## Normal nodes -/

/-- What words are shown as, besides the names of word classes. -/
def wordLabels : List String := ["C", "G", "L", "Z", "ga_clause", "gu_clause"]

/-- What the main parts of a sentence are shown as. -/
def partLabels : List String := ["PRENEX", "BRIDI", "SELBRI", "SUMTI"]

/-- Whether a view asks for a label in a trimmed tree. -/
def Shows (view : View) (label : String) : Prop :=
  (view.showWordClasses = true ∧
      (Label.isWordClass label = true ∨ label ∈ wordLabels)) ∨
    (view.showMainParts = true ∧ label ∈ partLabels)

/-- Whether a name is a label before a word that has a colon itself. -/
def ShowsBeforeColon (view : View) (name : String) (children : List Tree) : Prop :=
  ∃ label word, name = label ++ ":" ∧ view.Shows label ∧
    view.joinsLabels = true ∧ children = [.leaf word] ∧ ':' ∈ word.toList

/-- The form of a node in a trimmed tree. -/
def NormalNode (view : View) : Tree → Prop
  | .leaf _ => True
  | .labeled name children =>
      view.Shows name ∨ view.ShowsBeforeColon name children
  | .unlabeled children => 2 ≤ children.length

/-! ## Labels that are kept -/

/-- The name of a word class has no other short name. -/
theorem shownName_of_isWordClass (view : View) {name : String}
    (isClass : Label.isWordClass name = true) : view.shownName name = name := by
  have noClass : ∀ entry ∈ Label.displayNames,
      Label.isWordClass entry.1 = false := by decide
  have notListed : Label.displayNames.lookup name = none := by
    rw [List.lookup_eq_none_iff]
    intro entry member
    have different : name ≠ entry.1 := by
      rintro rfl
      simp [noClass entry member] at isClass
    simpa using different
  simp [shownName, shortName?, notListed]

theorem shows_of_mem_morphology {view : View} {name : String}
    (trimming : view.trim = true) (classes : view.showWordClasses = true)
    (isWord : name ∈ Label.morphology) : view.Shows (view.shownName name) := by
  have listed : ∀ label ∈ Label.morphology,
      (Label.displayNames.lookup label).getD label ∈ wordLabels := by decide
  left
  refine ⟨classes, .inr ?_⟩
  simpa [shownName, shortName?, trimming] using listed name isWord

theorem shows_of_mem_mainParts {view : View} {name : String}
    (trimming : view.trim = true) (parts : view.showMainParts = true)
    (isPart : name ∈ Label.mainParts) : view.Shows (view.shownName name) := by
  have listed : ∀ label ∈ Label.mainParts,
      (Label.displayNames.lookup label).getD label ∈ partLabels := by decide
  right
  refine ⟨parts, ?_⟩
  simpa [shownName, shortName?, trimming] using listed name isPart

/-- A label over something is trimmed unless the view asks for it. -/
theorem shows_of_trims_eq_false {view : View} {name : String}
    {children : List Tree} (trimming : view.trim = true)
    (kept : view.trims (.labeled name children) = false)
    (inhabited : children ≠ []) : view.Shows (view.shownName name) := by
  have notBare : (Tree.labeled name children).isBare = false := by
    simpa using inhabited
  have reasons :
      (view.showWordClasses = true ∧ Label.isWordClass name = true) ∨
        name ∈ view.keptLabels := by
    simpa only [trims, trimming, notBare, Tree.hasWordClass, Tree.labelAmong,
      Tree.name?, Option.any_some, Bool.and_false, Bool.not_false, Bool.true_and,
      Bool.and_eq_false_iff, Bool.not_eq_false', Bool.and_eq_true, Label.among_iff]
      using kept
  rcases reasons with ⟨classes, isClass⟩ | listed
  · left
    rw [view.shownName_of_isWordClass isClass]
    exact ⟨classes, .inl isClass⟩
  · rcases List.mem_append.mp listed with isWord | isPart
    · split at isWord
      · exact shows_of_mem_morphology trimming ‹_› isWord
      · simp at isWord
    · split at isPart
      · exact shows_of_mem_mainParts trimming ‹_› isPart
      · simp at isPart

/-! ## Every node is normal -/

/-- A label that the view asks for may be set over anything. -/
theorem normalNode_labeledNode {view : View} {label : String}
    (shown : view.Shows label) (kept : List Tree) :
    view.NormalNode (view.labeledNode label kept) := by
  unfold labeledNode
  split
  case h_1 word =>
    split
    case isTrue joining =>
      split
      case isTrue colon =>
        exact .inr ⟨label, word, rfl, shown, joining, rfl, by simpa using colon⟩
      case isFalse => trivial
    case isFalse => exact .inl shown
  case h_2 => exact .inl shown

theorem normalNode_flattened {view : View} {label : String}
    (shown : view.Shows label) (text : String) :
    view.NormalNode (view.flattened (some label) text) := by
  simp only [flattened]
  split
  · trivial
  · split
    · trivial
    · exact .inl shown

/-- Without a label, what is trimmed is a single element or a true sequence. -/
theorem normalNode_rebuilt_trim {view : View} {kept : List Tree} {result : Tree}
    (normal : ∀ node ∈ kept, view.NormalNode node)
    (left : view.rebuilt .trim none kept = some result) :
    view.NormalNode result := by
  match kept with
  | [] => simp [rebuilt] at left
  | [only] =>
      simp only [rebuilt, reduceCtorEq, if_false, Option.some.injEq] at left
      subst result
      exact normal only List.mem_cons_self
  | first :: second :: rest =>
      simp only [rebuilt, Option.some.injEq] at left
      subst result
      simp [NormalNode]

/--
Every answer of a step makes a normal node over normal nodes.  Over nothing, the
label of a flattened word becomes a word itself, whatever it is.
-/
theorem normalNode_finish {view : View} (trimming : view.trim = true)
    {tree : Tree} {kept : List Tree} {result : Tree}
    (bare : tree.children = [] → kept = [])
    (normal : ∀ node ∈ kept, view.NormalNode node)
    (left : view.finish tree kept = some result) : view.NormalNode result := by
  have stepped := view.stepped_step tree
  have grounds := view.grounds_treatment tree
  unfold finish at left
  generalize view.step tree = answer at stepped left
  cases stepped with
  | word text =>
      simp only [Option.some.injEq] at left
      subst result
      trivial
  | sequence children =>
      simp only [trimming, if_true] at left
      exact normalNode_rebuilt_trim normal left
  | deleted treated => simp at left
  | marked space =>
      simp only [trimming, if_true, marked, Option.some.injEq] at left
      subst result
      trivial
  | @flattened name children treated word =>
      simp only [Option.some.injEq] at left
      subst result
      rw [treated] at grounds
      by_cases nothing : children = []
      · simp [nothing, View.flattened, NormalNode]
      · exact normalNode_flattened
          (shows_of_trims_eq_false trimming grounds.2 nothing) _
  | trimFlattened treated word =>
      simp only [Option.some.injEq] at left
      subst result
      trivial
  | trimmed treated word => exact normalNode_rebuilt_trim normal left
  | @unboxed name treated word =>
      simp only [bare rfl, rebuilt, reduceCtorEq, if_false,
        Option.some.injEq] at left
      subst result
      trivial
  | @passed name children treated word =>
      rw [treated] at grounds
      obtain ⟨_, untrimmed, noUnboxing⟩ := grounds
      have inhabited : children ≠ [] := by
        simpa [trimming] using noUnboxing
      have shown := shows_of_trims_eq_false trimming untrimmed inhabited
      cases kept with
      | nil =>
          simp only [rebuilt, if_true, Option.some.injEq] at left
          subst result
          exact .inl shown
      | cons first rest =>
          simp only [rebuilt, Option.some.injEq] at left
          subst result
          exact normalNode_labeledNode shown _

/-- Without labels that it asks for, a view leaves no label. -/
theorem name?_eq_none_of_normalNode {view : View} {node : Tree}
    (noClasses : view.showWordClasses = false)
    (noParts : view.showMainParts = false)
    (normal : view.NormalNode node) : node.name? = none := by
  have noLabel (label : String) : ¬ view.Shows label := by
    simp [Shows, noClasses, noParts]
  cases node with
  | leaf text => rfl
  | labeled name children =>
      rcases normal with shown | ⟨label, word, _, shown, _⟩
      · exact (noLabel name shown).elim
      · exact (noLabel label shown).elim
  | unlabeled children => rfl

/--
All nodes of a trimmed tree are normal.  If neither word classes nor main parts
are shown, none of them has a label, so that the tree is a word or consists of
nested sequences of two or more elements.
-/
theorem normal_of_reduce (view : View) (limit : Nat) (tree result : Tree)
    (trimming : view.trim = true)
    (left : (view.reduce limit tree).outcome = .ok (some result)) :
    (∀ node ∈ result.nodes, view.NormalNode node) ∧
      (view.showWordClasses = false → view.showMainParts = false →
        ∀ node ∈ result.nodes, node.name? = none) := by
  have remaining := (eq_remains_of_outcome left).symm
  have normal : ∀ node ∈ result.nodes, view.NormalNode node :=
    view.forall_nodes_remains view.NormalNode (fun _ => trivial)
      (fun _ _ _ => normalNode_finish trimming) tree result remaining
  constructor
  · exact normal
  · intro noClasses noParts node member
    exact name?_eq_none_of_normalNode noClasses noParts (normal node member)

/-- A trimmed view of word classes and of the main parts of a sentence. -/
def classesAndParts : View where
  keepMorphology := true
  showSpaces := false
  showTerminators := false
  showWordClasses := true
  trim := true
  showMainParts := true
  json := false
  plainLeaves := false

/-- A sentence of two words, one of them a pronoun. -/
def pronounSentence : Tree :=
  .labeled "sentence"
    [ .labeled "sumti" [.labeled "KOhA" [.leaf "mi"]],
      .labeled "selbri" [.unlabeled [.labeled "gismu" [.leaf "klama"]]] ]

/-- What the trimmed view makes of it: labels next to their words. -/
def trimmedSentence : Tree :=
  .labeled "BRIDI"
    [ .labeled "SUMTI:" [.leaf "KOhA:mi"],
      .labeled "SELBRI:" [.leaf "G:klama"] ]

/-- Labels of both kinds are kept, and those before a colon have one as well. -/
theorem normal_of_reduce_pronounSentence :
    classesAndParts.trim = true ∧
      (classesAndParts.reduce 3 pronounSentence).outcome =
        .ok (some trimmedSentence) ∧
      (∀ node ∈ trimmedSentence.nodes, classesAndParts.NormalNode node) ∧
      (classesAndParts.showWordClasses = false →
        classesAndParts.showMainParts = false →
          ∀ node ∈ trimmedSentence.nodes, node.name? = none) := by
  have success :
      (classesAndParts.reduce 3 pronounSentence).outcome =
        .ok (some trimmedSentence) := by
    rfl
  exact ⟨rfl, success, normal_of_reduce _ 3 _ _ rfl success⟩

end View

end LojbanTree
