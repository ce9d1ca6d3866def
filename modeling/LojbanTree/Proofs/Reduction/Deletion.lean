import LojbanTree.Proofs.Reduction.Making
import LojbanTree.Proofs.Reduction.NormalForm
import LojbanTree.View.Letter

/-!
# What deletion leaves

Nothing that is deleted leaves a trace: a node of which nothing remains
disappears from the node above it, through any number of levels, so that there
is no empty sequence anywhere in a reduced tree, and no space unless it is shown.

A label that stays is another matter.  A terminator is hidden if nothing was
below it from the start, and this is looked up before its children are reduced.
If something was below it and all of that is deleted, then a view that keeps the
label keeps it bare.  `View.bare_terminator_iff` says where this happens.
-/

namespace LojbanTree

namespace View

/-! ## Empty sequences and space -/

/-- No empty sequence is made. -/
theorem Makes.ne_empty {view : View} {kept : List Tree} {tree node : Tree}
    (made : view.Makes kept tree node) : node ≠ .empty := by
  intro nothing
  cases made with
  | sequence inhabited | trimmed treated inhabited =>
      exact inhabited (by simpa [Tree.empty] using nothing)
  | _ => simp [Tree.empty] at nothing

theorem not_mem_spaces_of_not_deleted {view : View}
    (hidden : view.showSpaces = false)
    {name : String} {children : List Tree} {treatment : Treatment}
    (treated : view.treatment (.labeled name children) = treatment)
    (kept : treatment ≠ .delete) : name ∉ Label.spaces := by
  intro space
  apply kept
  rw [← treated]
  have isSpace : (Tree.labeled name children).labelAmong Label.spaces = true := by
    simpa [Tree.labelAmong, Tree.name?] using space
  simp [View.treatment, deletes, hidden, isSpace]

/-- A label of space is shown only over space, and never with a colon. -/
theorem shownName_not_mem_spaces (view : View) {name : String}
    (noSpace : name ∉ Label.spaces) :
    view.shownName name ∉ Label.spaces ∧
      view.shownName name ++ ":" ∉ Label.spaces := by
  constructor
  · intro shown
    exact noSpace (view.of_shownName (· ∈ Label.spaces) (by decide) shown)
  · intro shown
    have colon : ':' ∈ (view.shownName name ++ ":").toList := by simp
    have noColon : ∀ space ∈ Label.spaces, ':' ∉ space.toList := by decide
    exact noColon _ shown colon

/-- Hidden space is not made. -/
theorem Makes.labelAmong_spaces {view : View} (hidden : view.showSpaces = false)
    {kept : List Tree} {tree node : Tree} (made : view.Makes kept tree node) :
    node.labelAmong Label.spaces = false := by
  have ofLabel {name : String} {children : List Tree} {label : String}
      {below : List Tree} {treatment : Treatment}
      (treated : view.treatment (.labeled name children) = treatment)
      (stays : treatment ≠ .delete)
      (shown : label = view.shownName name ∨ label = view.shownName name ++ ":") :
      (Tree.labeled label below).labelAmong Label.spaces = false := by
    have noSpace := view.shownName_not_mem_spaces
      (not_mem_spaces_of_not_deleted hidden treated stays)
    have unlisted : label ∉ Label.spaces := by
      rcases shown with rfl | rfl
      · exact noSpace.1
      · exact noSpace.2
    simpa [Tree.labelAmong, Tree.name?, Label.among] using unlisted
  cases made with
  | overMark space =>
      obtain ⟨shown, _⟩ := (view.placeholder?_eq_some_iff _ _).mp space
      simp [hidden] at shown
  | overText treated => exact ofLabel treated (by decide) (.inl rfl)
  | bare treated | passed treated => exact ofLabel treated (by decide) (.inl rfl)
  | overColon treated => exact ofLabel treated (by decide) (.inr rfl)
  | _ => rfl

/--
Deletion reaches all the way up: no empty sequence is left, neither as the tree
nor anywhere in it, and no space that is hidden.
-/
theorem gapless_of_reduce (view : View) (limit : Nat) (tree result : Tree)
    (left : (view.reduce limit tree).outcome = .ok (some result)) :
    result ≠ .empty ∧
      (∀ node ∈ result.nodes, .empty ∉ node.children) ∧
      (view.showSpaces = false →
        ∀ node ∈ result.nodes, node.labelAmong Label.spaces = false) := by
  have remaining := (eq_remains_of_outcome left).symm
  have somewhere (node : Tree) (member : node ∈ result.nodes) :
      ∃ tree kept, view.Makes kept tree node := by
    obtain ⟨place, _, _, made⟩ :=
      view.exists_made_of_mem_nodes tree result node remaining member
    exact ⟨place.node, _, made⟩
  refine ⟨?_, ?_, ?_⟩
  · obtain ⟨_, _, made⟩ := somewhere result result.self_mem_nodes
    exact made.ne_empty
  · intro node member isChild
    obtain ⟨_, _, made⟩ :=
      somewhere .empty (Tree.mem_nodes_of_mem_children member isChild)
    exact made.ne_empty rfl
  · intro hidden node member
    obtain ⟨_, _, made⟩ := somewhere node member
    exact made.labelAmong_spaces hidden

/-- An untrimmed view that hides space and terminators. -/
def wholeWords : View := .ofLetterSet fun letter => letter = .raw

/-- A sentence in which most is deleted, on several levels. -/
def gappedSentence : Tree :=
  .labeled "sentence"
    [ .unlabeled [.unlabeled [],
      .unlabeled [.labeled "spaces" [.leaf " "], .labeled "KU" []]],
      .labeled "sumti" [.labeled "KOhA" [.leaf "mi"], .unlabeled [.unlabeled []]],
      .labeled "initial_spaces" [.unlabeled []] ]

/-- What is left of it. -/
def gaplessSentence : Tree :=
  .labeled "sentence" [.labeled "sumti" [.labeled "KOhA" [.leaf "mi"]]]

/-- The sequences around what is deleted go with it. -/
theorem gapless_of_reduce_gappedSentence :
    (wholeWords.reduce 3 gappedSentence).outcome = .ok (some gaplessSentence) ∧
      gaplessSentence ≠ .empty ∧
      (∀ node ∈ gaplessSentence.nodes, .empty ∉ node.children) ∧
      wholeWords.showSpaces = false ∧
      ∀ node ∈ gaplessSentence.nodes, node.labelAmong Label.spaces = false := by
  have left :
      (wholeWords.reduce 3 gappedSentence).outcome =
        .ok (some gaplessSentence) := by
    with_unfolding_all rfl
  have hidden : wholeWords.showSpaces = false := rfl
  obtain ⟨inhabited, noEmpty, noSpace⟩ := gapless_of_reduce wholeWords 3 _ _ left
  exact ⟨left, inhabited, noEmpty, hidden, noSpace hidden⟩

/-! ## Bare terminators -/

/-- The name of a word class is none of the labels with another meaning. -/
theorem labelAmong_of_isWordClass {name : String}
    (isClass : Label.isWordClass name = true)
    (children : List Tree) (names : List String)
    (apart : ∀ label ∈ names, Label.isWordClass label = false) :
    (Tree.labeled name children).labelAmong names = false := by
  have unlisted : name ∉ names := by
    intro listed
    simp [apart name listed] at isClass
  simpa [Tree.labelAmong, Tree.name?, Label.among] using unlisted

theorem isWordClass_of_mem_keptLabels (view : View) :
    ∀ label ∈ view.keptLabels, Label.isWordClass label = false := by
  cases classes : view.showWordClasses <;> cases parts : view.showMainParts <;>
    simp only [keptLabels, classes, parts] <;> decide

/--
With terminators hidden, a word class over something is kept if and only if the
structure of words and the label are kept.
-/
theorem treatment_eq_pass_iff_of_isWordClass {view : View}
    (hidden : view.showTerminators = false) {name : String}
    (isClass : Label.isWordClass name = true) (children : List Tree) :
    view.treatment (.labeled name children) = .pass ↔
      view.keepMorphology = true ∧
        (view.trim = false ∨ view.showWordClasses = true) ∧
        children ≠ [] := by
  have noSpace :=
    labelAmong_of_isWordClass isClass children Label.spaces (by decide)
  have noLabel := labelAmong_of_isWordClass isClass children view.keptLabels
    view.isWordClass_of_mem_keptLabels
  have named : (Tree.labeled name children).hasWordClass = true := isClass
  simp only [View.treatment, deletes, flattens, trims, hidden, noSpace, noLabel,
    named, isBare_labeled]
  cases children with
  | nil => simp
  | cons first rest =>
      cases view.keepMorphology <;> cases view.trim <;>
        cases view.showWordClasses <;> simp

/-- Whether a terminator becomes bare because all that was below it is deleted. -/
def Bares (view : View) (tree : Tree) : Prop :=
  tree.hasWordClass = true ∧ tree.children ≠ [] ∧
    view.remainsAll tree.children = []

/--
A bare terminator is made of one that was not bare.  No short name is the name of a
word class, so that its label was one before.
-/
theorem Makes.bares {view : View} (hidden : view.showTerminators = false)
    {tree node : Tree}
    (made : view.Makes (view.remainsAll tree.children) tree node)
    (isClass : node.hasWordClass = true) (bare : node.children = []) :
    view.keepMorphology = true ∧
      (view.trim = false ∨ view.showWordClasses = true) ∧
      view.Bares tree := by
  cases made with
  | bare treated nothing =>
      have named :=
        view.of_shownName (Label.isWordClass · = true) (by decide) isClass
      obtain ⟨keeping, labels, inhabited⟩ :=
        (treatment_eq_pass_iff_of_isWordClass hidden named _).mp treated
      exact ⟨keeping, labels, named, inhabited, nothing⟩
  | passed treated inhabited => exact absurd bare inhabited
  | overMark | overText | overColon => simp [Tree.children] at bare
  | _ => simp [Tree.hasWordClass, Tree.name?] at isClass

/-- A terminator that becomes bare is left at its place. -/
theorem Bares.remains_eq {view : View} {tree : Tree} (bares : view.Bares tree)
    (hidden : view.showTerminators = false) (keeping : view.keepMorphology = true)
    (labels : view.trim = false ∨ view.showWordClasses = true) :
    ∃ name, Label.isWordClass name = true ∧
      view.remains tree = some (.labeled name []) := by
  obtain ⟨isClass, inhabited, nothing⟩ := bares
  cases tree with
  | leaf text => simp [Tree.hasWordClass, Tree.name?] at isClass
  | unlabeled children => simp [Tree.hasWordClass, Tree.name?] at isClass
  | labeled name children =>
      have named : Label.isWordClass name = true := isClass
      have treated :=
        (treatment_eq_pass_iff_of_isWordClass hidden named children).mpr
        ⟨keeping, labels, inhabited⟩
      have word : view.placeholder? name = none := by
        rw [Option.eq_none_iff_forall_ne_some]
        intro mark space
        obtain ⟨_, isSpace, _⟩ :=
          (view.placeholder?_eq_some_iff name mark).mp space
        have noClass := hasWordClass_of_space children isSpace
        simp [noClass] at isClass
      have answer := (Stepped.passed treated word).step_eq
      refine ⟨name, named, ?_⟩
      rw [remains_eq_finish, nothing, finish, answer]
      simp [rebuilt, view.shownName_of_isWordClass named]

/--
With terminators hidden, a bare one is found in a reduced tree if and only if
the view keeps the structure of words and the labels of word classes, and the
walk comes to a terminator that was not bare but has lost all that was below it.
-/
theorem bare_terminator_iff (view : View) (limit : Nat) (tree result : Tree)
    (hidden : view.showTerminators = false)
    (left : (view.reduce limit tree).outcome = .ok (some result)) :
    (∃ node ∈ result.nodes, node.hasWordClass = true ∧ node.children = []) ↔
      view.keepMorphology = true ∧
        (view.trim = false ∨ view.showWordClasses = true) ∧
        ∃ place ∈ tree.places, view.visits place = true ∧
          view.Bares place.node := by
  have remaining := (eq_remains_of_outcome left).symm
  constructor
  · rintro ⟨node, member, isClass, bare⟩
    obtain ⟨place, isPlace, visited, made⟩ :=
      view.exists_made_of_mem_nodes tree result node remaining member
    obtain ⟨keeping, labels, bares⟩ := made.bares hidden isClass bare
    exact ⟨keeping, labels, place, isPlace, visited, bares⟩
  · rintro ⟨keeping, labels, place, isPlace, visited, bares⟩
    obtain ⟨name, isClass, bare⟩ := bares.remains_eq hidden keeping labels
    obtain ⟨whole, wholeLeft, member⟩ :=
      view.exists_remains_of_mem_places tree isPlace visited bare rfl
    obtain rfl : result = whole := by
      rw [remaining] at wholeLeft
      exact Option.some.inj wholeLeft
    exact ⟨_, member, isClass, rfl⟩

/-- An untrimmed view that keeps the structure of words and hides terminators. -/
def spelledWords : View :=
  .ofLetterSet fun letter => letter = .raw ∨ letter = .morphology

/--
A sentence with a terminator that has nothing but space below it, and a bare one.
-/
def spacedTerminator : Tree :=
  .labeled "text"
    [ .labeled "KU" [.labeled "spaces" [.leaf " "]], .labeled "VAU" [],
      .labeled "gismu" [.leaf "klama"] ]

/-- The sentence with its first terminator bare. -/
def baredTerminator : Tree :=
  .labeled "text" [.labeled "KU" [], .labeled "gismu" [.leaf "klama"]]

theorem reduce_spacedTerminator :
    (spelledWords.reduce 2 spacedTerminator).outcome =
      .ok (some baredTerminator) := by
  with_unfolding_all rfl

/-- The terminator over space is bared and stays, while the bare one is deleted. -/
theorem bare_terminator_iff_spacedTerminator :
    spelledWords.showTerminators = false ∧
      (spelledWords.reduce 2 spacedTerminator).outcome =
        .ok (some baredTerminator) ∧
      (∃ place ∈ spacedTerminator.places, spelledWords.visits place = true ∧
        spelledWords.Bares place.node) ∧
      ∃ node ∈ baredTerminator.nodes, node.hasWordClass = true ∧
        node.children = [] := by
  have hidden : spelledWords.showTerminators = false := rfl
  have bared :=
    bare_terminator_iff spelledWords 2 _ _ hidden reduce_spacedTerminator
  have found :
      ∃ node ∈ baredTerminator.nodes, node.hasWordClass = true ∧
        node.children = [] := by
    decide
  obtain ⟨_, _, bares⟩ := bared.mp found
  exact ⟨hidden, reduce_spacedTerminator, bares, found⟩

/-- A view that hides terminators may leave a bare one all the same. -/
theorem not_forall_no_bare_terminator :
    ¬ ∀ (view : View) (limit : Nat) (tree result : Tree),
        view.showTerminators = false →
          (view.reduce limit tree).outcome = .ok (some result) →
            ∀ node ∈ result.nodes, node.hasWordClass = true →
              node.children ≠ [] := by
  intro hiddenStays
  have bare : .labeled "KU" [] ∈ baredTerminator.nodes := by decide
  exact hiddenStays spelledWords 2 spacedTerminator baredTerminator rfl
    reduce_spacedTerminator _ bare (by decide) rfl

end View

end LojbanTree
