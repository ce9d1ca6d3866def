import LojbanTree.Proofs.Reduction.Visits

/-!
# Where the nodes of a reduced tree come from

The nodes of a reduced tree are made one by one at the places to which the walk
comes.  `View.Makes` lists the nodes that can be made at a place, with one
constructor for each way, so that a statement about all nodes of a reduced tree
can be read off the list.

What is made at a place is lost again only if it is a word, because a label
above it may take it in.
-/

namespace LojbanTree

namespace View

/-! ## Short names -/

/-- A label is shown as it is or under one of the short names. -/
theorem shownName_cases (view : View) (name : String) :
    view.shownName name = name ∨
      view.shownName name ∈ Label.displayNames.map Prod.snd := by
  unfold shownName shortName?
  split
  case isTrue =>
    cases found : Label.displayNames.lookup name with
    | none => exact .inl rfl
    | some short =>
        obtain ⟨before, behind, listed, _⟩ := List.lookup_eq_some_iff.mp found
        right
        simp [listed]
  case isFalse => exact .inl rfl

/-- What no short name has, a label is shown with only if it has it itself. -/
theorem of_shownName (view : View) (property : String → Prop) {name : String}
    (noShort : ∀ short ∈ Label.displayNames.map Prod.snd, ¬ property short)
    (shown : property (view.shownName name)) : property name := by
  rcases view.shownName_cases name with same | short
  · rwa [same] at shown
  · exact absurd shown (noShort _ short)

/-! ## The nodes that are made at a place -/

/-- The nodes that can be made at a node if `kept` is left of its children. -/
inductive Makes (view : View) (kept : List Tree) : Tree → Tree → Prop where
  | word (text : String) : Makes view kept (.leaf text) (.leaf text)
  | mark {name mark : String} {children : List Tree}
      (space : view.placeholder? name = some mark) :
      Makes view kept (.labeled name children) (.leaf mark)
  | overMark {name mark : String} {children : List Tree}
      (space : view.placeholder? name = some mark)
        (untrimmed : view.trim = false) :
      Makes view kept (.labeled name children) (.labeled name [.leaf mark])
  | spoken {name : String} {children : List Tree}
      (treated : view.treatment (.labeled name children) = .flatten ∨
        view.treatment (.labeled name children) = .trimFlatten) :
      Makes view kept (.labeled name children) (.leaf (Tree.spokenAll children))
  /-- The label stands for a word of which nothing was spoken. -/
  | silent {name : String} {children : List Tree}
      (treated : view.treatment (.labeled name children) = .flatten) :
      Makes view kept (.labeled name children) (.leaf (view.shownName name))
  | joinedText {name : String} {children : List Tree}
      (treated : view.treatment (.labeled name children) = .flatten)
      (joining : view.joinsLabels = true) :
      Makes view kept (.labeled name children)
        (.leaf (view.shownName name ++ ":" ++ Tree.spokenAll children))
  | overText {name : String} {children : List Tree}
      (treated : view.treatment (.labeled name children) = .flatten)
      (apart : view.joinsLabels = false) :
      Makes view kept (.labeled name children)
        (.labeled (view.shownName name) [.leaf (Tree.spokenAll children)])
  | sequence {children : List Tree} (inhabited : kept ≠ []) :
      Makes view kept (.unlabeled children) (.unlabeled kept)
  | trimmed {name : String} {children : List Tree}
      (treated : view.treatment (.labeled name children) = .trim)
      (inhabited : kept ≠ []) :
      Makes view kept (.labeled name children) (.unlabeled kept)
  | unboxed {name : String}
      (treated : view.treatment (.labeled name []) = .unbox) :
      Makes view kept (.labeled name []) (.leaf (view.shownName name))
  /-- The label stays although nothing is left below it. -/
  | bare {name : String} {children : List Tree}
      (treated : view.treatment (.labeled name children) = .pass)
      (nothing : kept = []) :
      Makes view kept (.labeled name children) (.labeled (view.shownName name) [])
  | joinedWord {name word : String} {children : List Tree}
      (treated : view.treatment (.labeled name children) = .pass)
      (joining : view.joinsLabels = true) (only : kept = [.leaf word])
      (plain : ':' ∉ word.toList) :
      Makes view kept (.labeled name children)
        (.leaf (view.shownName name ++ ":" ++ word))
  /-- The label stays apart from a word with a colon, and gets one itself. -/
  | overColon {name word : String} {children : List Tree}
      (treated : view.treatment (.labeled name children) = .pass)
      (joining : view.joinsLabels = true) (only : kept = [.leaf word])
      (colon : ':' ∈ word.toList) :
      Makes view kept (.labeled name children)
        (.labeled (view.shownName name ++ ":") [.leaf word])
  | passed {name : String} {children : List Tree}
      (treated : view.treatment (.labeled name children) = .pass)
      (inhabited : kept ≠ [])
      (apart : view.joinsLabels = true → ∀ word, kept ≠ [.leaf word]) :
      Makes view kept (.labeled name children)
        (.labeled (view.shownName name) kept)

section Finish

variable {view : View} {name : String} {children kept : List Tree}
  {node result : Tree}

/-- Without a label, a single element takes the place of the node. -/
theorem rebuilt_none_cases {treatment : Treatment}
    (left : view.rebuilt treatment none kept = some result) :
    kept = [result] ∨ (kept ≠ [] ∧ result = .unlabeled kept) := by
  match kept with
  | [] => simp [rebuilt] at left
  | [only] =>
      simp only [rebuilt, Option.some.injEq] at left
      split at left
      · exact .inr ⟨List.cons_ne_nil only [], left.symm⟩
      · exact .inl (by rw [left])
  | first :: second :: rest =>
      simp only [rebuilt, Option.some.injEq] at left
      exact .inr ⟨List.cons_ne_nil first _, left.symm⟩

theorem mem_nodes_marked {mark : String}
    (space : view.placeholder? name = some mark)
    (member : node ∈ (marked (if view.trim then none else some name) mark).nodes) :
    view.Makes kept (.labeled name children) node := by
  cases trimming : view.trim with
  | true =>
      simp only [trimming, if_true, marked] at member
      obtain rfl := (Tree.mem_nodes_leaf node mark).mp member
      exact .mark space
  | false =>
      simp only [trimming, Bool.false_eq_true, if_false, marked, Tree.nodes,
        Tree.nodesAll, List.append_nil, List.mem_cons, List.not_mem_nil, or_false]
        at member
      rcases member with rfl | rfl
      · exact .overMark space trimming
      · exact .mark space

theorem mem_nodes_flattened
    (treated : view.treatment (.labeled name children) = .flatten)
    (member : node ∈
      (view.flattened (some (view.shownName name))
        (Tree.spokenAll children)).nodes) :
    view.Makes kept (.labeled name children) node := by
  simp only [View.flattened] at member
  split at member
  case isTrue silent =>
    obtain rfl := (Tree.mem_nodes_leaf node _).mp member
    exact .silent treated
  case isFalse spoken =>
  split at member
  case isTrue joining =>
    obtain rfl := (Tree.mem_nodes_leaf node _).mp member
    exact .joinedText treated joining
  case isFalse apart =>
    simp only [Tree.nodes, Tree.nodesAll, List.append_nil, List.mem_cons,
      List.not_mem_nil, or_false] at member
    rcases member with rfl | rfl
    · exact .overText treated ((Bool.not_eq_true _).mp apart)
    · exact .spoken (.inl treated)

/-- A label over what is kept takes in a word or is a node of its own. -/
theorem mem_nodes_labeledNode
    (treated : view.treatment (.labeled name children) = .pass)
    (inhabited : kept ≠ [])
    (member : node ∈ (view.labeledNode (view.shownName name) kept).nodes) :
    view.Makes kept (.labeled name children) node ∨
      ∃ element ∈ kept, node ∈ element.nodes := by
  have fromNode {label : String} (made : view.Makes kept (.labeled name children)
        (.labeled label kept)) (isNode : node ∈ (Tree.labeled label kept).nodes) :
      view.Makes kept (.labeled name children) node ∨
        ∃ element ∈ kept, node ∈ element.nodes := by
    rcases (Tree.mem_nodes_iff node _).mp isNode with rfl | inside
    · exact .inl made
    · exact .inr inside
  unfold labeledNode at member
  split at member
  case h_1 word =>
    split at member
    case isTrue joining =>
      split at member
      case isTrue colon =>
        exact fromNode (.overColon treated joining rfl (by simpa using colon))
          member
      case isFalse plain =>
        obtain rfl := (Tree.mem_nodes_leaf node _).mp member
        exact .inl (.joinedWord treated joining rfl (by simpa using plain))
    case isFalse separate =>
      exact fromNode
        (.passed treated inhabited fun joining => absurd joining separate) member
  case h_2 noWord =>
    exact fromNode (.passed treated inhabited fun _ => noWord) member

/--
The nodes that a step leaves were made by it, or were kept below an opened node.
-/
theorem mem_nodes_finish {tree : Tree} (childless : tree.children = [] → kept = [])
    (left : view.finish tree kept = some result) (member : node ∈ result.nodes) :
    view.Makes kept tree node ∨
      (view.opens tree = true ∧ ∃ element ∈ kept, node ∈ element.nodes) := by
  have stepped := view.stepped_step tree
  unfold finish at left
  unfold opens
  generalize view.step tree = answer at stepped left
  have ofUnlabeled {treatment : Treatment}
      (rebuilt : view.rebuilt treatment none kept = some result)
      (made : kept ≠ [] → view.Makes kept tree (.unlabeled kept)) :
      view.Makes kept tree node ∨
        (true = true ∧ ∃ element ∈ kept, node ∈ element.nodes) := by
    rcases rebuilt_none_cases rebuilt with only | ⟨inhabited, rfl⟩
    · exact .inr ⟨rfl, result, by simp [only], member⟩
    · rcases (Tree.mem_nodes_iff node _).mp member with rfl | inside
      · exact .inl (made inhabited)
      · exact .inr ⟨rfl, inside⟩
  cases stepped with
  | word text =>
      obtain rfl := Option.some.inj left
      obtain rfl := (Tree.mem_nodes_leaf node _).mp member
      exact .inl (.word text)
  | sequence children => exact ofUnlabeled left .sequence
  | deleted treated => simp at left
  | marked space =>
      obtain rfl := Option.some.inj left
      exact .inl (mem_nodes_marked space member)
  | flattened treated word =>
      obtain rfl := Option.some.inj left
      exact .inl (mem_nodes_flattened treated member)
  | trimFlattened treated word =>
      obtain rfl := Option.some.inj left
      obtain rfl := (Tree.mem_nodes_leaf node _).mp member
      exact .inl (.spoken (.inr treated))
  | trimmed treated word => exact ofUnlabeled left (.trimmed treated)
  | unboxed treated word =>
      simp only [childless rfl, rebuilt, reduceCtorEq, if_false,
        Option.some.injEq] at left
      subst result
      obtain rfl := (Tree.mem_nodes_leaf node _).mp member
      exact .inl (.unboxed treated)
  | passed treated word =>
      cases kept with
      | nil =>
          simp only [rebuilt, if_true, Option.some.injEq] at left
          subst result
          obtain rfl : node = _ := by
            simpa only [Tree.nodes, Tree.nodesAll, List.mem_singleton] using member
          exact .inl (.bare treated rfl)
      | cons first rest =>
          obtain rfl := Option.some.inj left
          exact (mem_nodes_labeledNode treated
            (List.cons_ne_nil first rest) member).imp_right
            fun inside => ⟨rfl, inside⟩

end Finish

/-! ## Every node was made somewhere -/

theorem looksBelow_of_opens {view : View} {tree : Tree}
    (opened : view.opens tree = true) : view.looksBelow tree = true := by
  cases inner : tree.isLeaf with
  | true =>
      obtain ⟨text, rfl⟩ := (Tree.isLeaf_iff tree).mp inner
      simp [opens, step, Tree.isLeaf] at opened
  | false => rwa [← view.opens_eq_looksBelow inner]

/-- Every node of a reduced tree was made at a place to which the walk came. -/
theorem exists_made_of_mem_nodes (view : View) (tree result node : Tree)
    (left : view.remains tree = some result) (member : node ∈ result.nodes) :
    ∃ place ∈ tree.places, view.visits place = true ∧
      view.Makes (view.remainsAll place.node.children) place.node node := by
  induction tree using Tree.induction generalizing result with
  | node tree below =>
      rw [remains_eq_finish] at left
      rcases mem_nodes_finish view.remainsAll_eq_nil left member with
        made | ⟨opened, kept, isKept, inKept⟩
      · exact ⟨⟨[], tree⟩, tree.root_mem_places, view.visits_root tree, made⟩
      · obtain ⟨child, isChild, childLeft⟩ := (view.mem_remainsAll _ _).mp isKept
        obtain ⟨place, isPlace, visited, made⟩ :=
          below child isChild kept childLeft inKept
        refine ⟨place.under tree, Tree.under_mem_places isChild isPlace, ?_, made⟩
        simp [looksBelow_of_opens opened, visited]

/-! ## What was made stays -/

/-- A label takes in nothing but a word. -/
theorem labeledNode_of_mem_inner (view : View) (label : String) {kept : List Tree}
    {node : Tree} (isKept : node ∈ kept) (inner : node.isLeaf = false) :
    view.labeledNode label kept = .labeled label kept := by
  unfold labeledNode
  split
  case h_1 word =>
    obtain rfl := List.mem_singleton.mp isKept
    simp [Tree.isLeaf] at inner
  case h_2 => rfl

/-- An inner node over which another one is rebuilt stays as it is. -/
theorem exists_rebuilt_of_mem_kept (view : View) (treatment : Treatment)
    (label? : Option String) {kept : List Tree} {node : Tree}
    (isKept : node ∈ kept) (inner : node.isLeaf = false) :
    ∃ result, view.rebuilt treatment label? kept = some result ∧
      (result = node ∨ node ∈ result.children) := by
  match label?, kept with
  | none, [only] =>
      obtain rfl := List.mem_singleton.mp isKept
      by_cases passing : treatment = .pass
      · exact ⟨.unlabeled [node], by simp [rebuilt, passing], .inr isKept⟩
      · exact ⟨node, by simp [rebuilt, passing], .inl rfl⟩
  | none, first :: second :: rest => exact ⟨_, rfl, .inr isKept⟩
  | some label, first :: rest =>
      have whole := view.labeledNode_of_mem_inner label isKept inner
      exact ⟨.labeled label (first :: rest), by simp [rebuilt, whole], .inr isKept⟩

/--
An inner node that is left at a visited place is found in what is left of the tree.
-/
theorem exists_remains_of_mem_places (view : View) (tree : Tree) {place : Place}
    {node : Tree} (isPlace : place ∈ tree.places)
    (visited : view.visits place = true)
    (left : view.remains place.node = some node) (inner : node.isLeaf = false) :
    ∃ result, view.remains tree = some result ∧ node ∈ result.nodes := by
  induction tree using Tree.induction generalizing place with
  | node tree below =>
      rcases (Tree.mem_places_iff place tree).mp isPlace with
        rfl | ⟨child, isChild, lower, isLower, rfl⟩
      · exact ⟨node, left, node.self_mem_nodes⟩
      · simp only [visits_under, Bool.and_eq_true] at visited
        obtain ⟨looks, visitedLower⟩ := visited
        obtain ⟨kept, childLeft, inKept⟩ :=
          below child isChild isLower visitedLower left
        have isKept : kept ∈ view.remainsAll tree.children :=
          (view.mem_remainsAll _ _).mpr ⟨child, isChild, childLeft⟩
        rw [← view.opens_eq_looksBelow
          (Tree.isLeaf_of_mem_children isChild)] at looks
        rw [remains_eq_finish, finish]
        unfold opens at looks
        split at looks
        case h_1 => simp at looks
        case h_2 treatment label? answer =>
          obtain ⟨result, rebuilt, found⟩ :=
            view.exists_rebuilt_of_mem_kept treatment label? isKept
              (Tree.isLeaf_of_mem_nodes inKept inner)
          refine ⟨result, rebuilt, (Tree.mem_nodes_iff node result).mpr ?_⟩
          rcases found with rfl | isChildOfResult
          · exact (Tree.mem_nodes_iff node result).mp inKept
          · exact .inr ⟨kept, isChildOfResult, inKept⟩

end View

end LojbanTree
