import LojbanTree.Proofs.Reduction.Stepping

/-!
# What a reduction leaves

The walk of `View.reduce` writes a journal, looks out for the limit and may
give up half-way.  Apart from that it computes a function of the tree,
`View.remains`, and whether it gives up depends on one number, `View.reach`:
how many levels below the root it goes.  `View.outcome_reduce` says so.

`View.forall_nodes_remains` is the induction behind every statement about all
nodes of a reduced tree: it is enough to look at the node that a step makes.
-/

namespace LojbanTree

namespace View

/-! ## The result and the reach of a walk -/

/-- What is left of a node if `kept` is left of its children. -/
def finish (view : View) (tree : Tree) (kept : List Tree) : Option Tree :=
  match view.step tree with
  | .settled result => result
  | .rebuild treatment label? => view.rebuilt treatment label? kept

/-- Whether the children of a node are looked at. -/
def opens (view : View) (tree : Tree) : Bool :=
  match view.step tree with
  | .settled _ => false
  | .rebuild _ _ => true

mutual

/-- What is left of a tree if the walk is not given up. -/
def remains (view : View) : Tree → Option Tree
  | .leaf text => view.finish (.leaf text) []
  | .labeled name children =>
      view.finish (.labeled name children) (remainsAll view children)
  | .unlabeled children =>
      view.finish (.unlabeled children) (remainsAll view children)

/-- What is left of several trees. -/
def remainsAll (view : View) : List Tree → List Tree
  | [] => []
  | tree :: rest => (remains view tree).toList ++ remainsAll view rest

end

mutual

/-- How many levels below a node the walk goes. -/
def reach (view : View) : Tree → Nat
  | .leaf _ => 0
  | .labeled name children =>
      if view.opens (.labeled name children) then reachAll view children else 0
  | .unlabeled children =>
      if view.opens (.unlabeled children) then reachAll view children else 0

/-- How many levels the walk goes with nodes on the first of them. -/
def reachAll (view : View) : List Tree → Nat
  | [] => 0
  | tree :: rest =>
      max (if tree.isLeaf then 0 else reach view tree + 1) (reachAll view rest)

end

/-- What is left of a tree is made of what is left of its children. -/
theorem remains_eq_finish (view : View) (tree : Tree) :
    view.remains tree = view.finish tree (view.remainsAll tree.children) := by
  cases tree <;> simp [remains, remainsAll, Tree.children]

@[simp]
theorem finish_leaf (view : View) (text : String) (kept : List Tree) :
    view.finish (.leaf text) kept = some (.leaf text) := by
  simp [finish, step, Tree.isLeaf]

theorem remains_of_isLeaf (view : View) {tree : Tree} (word : tree.isLeaf = true) :
    view.remains tree = some tree := by
  obtain ⟨text, rfl⟩ := (Tree.isLeaf_iff tree).mp word
  simp [remains]

theorem reach_eq (view : View) (tree : Tree) :
    view.reach tree =
      if view.opens tree then view.reachAll tree.children else 0 := by
  cases tree <;> simp [reach, reachAll, Tree.children]

theorem mem_remainsAll (view : View) (result : Tree) (trees : List Tree) :
    result ∈ view.remainsAll trees ↔
      ∃ tree ∈ trees, view.remains tree = some result := by
  induction trees with
  | nil => simp [remainsAll]
  | cons head tail inTail => simp [remainsAll, inTail]

theorem remainsAll_eq_nil (view : View) {trees : List Tree}
    (nothing : trees = []) :
    view.remainsAll trees = [] := by
  subst nothing
  simp [remainsAll]

/-! ## The walk computes them -/

/-- Whatever kind of node it is, its step decides how the walk goes on. -/
theorem reduceAt_eq (view : View) (limit depth : Nat) (tree : Tree) :
    view.reduceAt limit depth tree =
      (view.enter limit depth tree).andThen fun answer =>
        match answer with
        | .settled result => .done result
        | .rebuild treatment label? =>
            (view.reduceAll limit (depth + 1) tree.children).map
              (view.rebuilt treatment label?) := by
  cases tree with
  | leaf text =>
      simp only [reduceAt, reduceAll, Tree.children, Run.map_done]
      rfl
  | labeled name children => rfl
  | unlabeled children => rfl

theorem outcome_enter (view : View) {limit depth : Nat} (tree : Tree)
    (shallow : depth ≤ limit) :
    (view.enter limit depth tree).outcome =
      .ok (if tree.isEmpty then .settled none else view.step tree) := by
  have notDeep : ¬ limit < depth := Nat.not_lt.mpr shallow
  by_cases nothing : tree.isEmpty = true
  · simp [enter, notDeep, nothing]
  · simp [enter, notDeep, nothing, Run.write, Run.outcome_andThen]

/-- The empty sequence needs no case of its own: nothing is left of it anyway. -/
theorem outcome_reduceAt_of_le (view : View) {limit depth : Nat} (tree : Tree)
    (shallow : depth ≤ limit) :
    (view.reduceAt limit depth tree).outcome =
      match view.step tree with
      | .settled result => .ok result
      | .rebuild treatment label? =>
          (view.reduceAll limit (depth + 1) tree.children).outcome.map
            (view.rebuilt treatment label?) := by
  rw [reduceAt_eq, Run.outcome_andThen, outcome_enter view tree shallow]
  by_cases nothing : tree.isEmpty = true
  · obtain rfl := (Tree.isEmpty_iff tree).mp nothing
    cases trimming : view.trim <;>
      simp [Tree.empty, step, Tree.isLeaf, Tree.isEmpty, Tree.name?, Tree.children,
        keptLabel?, reduceAll, rebuilt, Except.map, trimming]
  · simp only [nothing]
    cases view.step tree <;> simp

/--
The children of a node within the limit, if the walk over each is known.  Where the
first of them is too deep it gives up before the others, with the fault that they
would have.
-/
theorem outcome_reduceAll (view : View) (limit : Nat) (trees : List Tree)
    (each : ∀ tree ∈ trees, ∀ depth,
      (view.reduceAt limit depth tree).outcome =
        if depth + view.reach tree ≤ limit then .ok (view.remains tree)
        else .error (.tooDeep limit))
    (depth : Nat) (shallow : depth ≤ limit) :
    (view.reduceAll limit (depth + 1) trees).outcome =
      if depth + view.reachAll trees ≤ limit then .ok (view.remainsAll trees)
      else .error (.tooDeep limit) := by
  induction trees with
  | nil => simp [reduceAll, reachAll, remainsAll, shallow]
  | cons tree rest inRest =>
      have atHead := each tree List.mem_cons_self (depth + 1)
      have atRest := inRest fun other member =>
        each other (List.mem_cons_of_mem tree member)
      by_cases word : tree.isLeaf = true
      · simp only [reduceAll, reachAll, remainsAll, word, if_true, Run.bind_eq,
          Run.functor_map_eq, Run.andThen_done, Run.outcome_map, atRest,
          remains_of_isLeaf view word, Nat.zero_max]
        split <;> simp [Except.map]
      · simp only [reduceAll, reachAll, remainsAll, word, Bool.false_eq_true,
          if_false, Run.bind_eq, Run.functor_map_eq, Run.outcome_andThen,
          Run.outcome_map, atHead, atRest]
        by_cases headFits : depth + 1 + view.reach tree ≤ limit
        · have same :
              depth + max (view.reach tree + 1) (view.reachAll rest) ≤ limit ↔
                depth + view.reachAll rest ≤ limit := by omega
          simp only [headFits, if_true, same]
          split <;> simp [Except.map]
        · have tooFar :
              ¬ depth + max (view.reach tree + 1) (view.reachAll rest) ≤
                limit := by
            omega
          simp [headFits, tooFar]

/-- The walk is given up if and only if it would go beyond the limit. -/
theorem outcome_reduceAt (view : View) (limit : Nat) (tree : Tree) (depth : Nat) :
    (view.reduceAt limit depth tree).outcome =
      if depth + view.reach tree ≤ limit then .ok (view.remains tree)
      else .error (.tooDeep limit) := by
  induction tree using Tree.induction generalizing depth with
  | node tree below =>
      by_cases shallow : depth ≤ limit
      · have onChildren :=
          outcome_reduceAll view limit tree.children below depth shallow
        rw [outcome_reduceAt_of_le view tree shallow, remains_eq_finish, reach_eq,
          finish, opens]
        cases view.step tree with
        | settled result => simp [shallow]
        | rebuild treatment label? =>
            rw [onChildren]
            simp only [if_true]
            split <;> simp [Except.map]
      · have deep : limit < depth := Nat.lt_of_not_le shallow
        have notReached : ¬ depth + view.reach tree ≤ limit := by omega
        rw [if_neg notReached]
        cases tree <;> simp [reduceAt, enter, deep]

/-- A reduction succeeds if the walk stays within the limit, with what is left. -/
theorem outcome_reduce (view : View) (limit : Nat) (tree : Tree) :
    (view.reduce limit tree).outcome =
      if view.reach tree ≤ limit then .ok (view.remains tree)
      else .error (.tooDeep limit) := by
  rw [reduce, outcome_reduceAt, Nat.zero_add]

/-- A walk that comes to its end leaves what the function leaves. -/
theorem eq_remains_of_outcome {view : View} {limit : Nat} {tree : Tree}
    {left? : Option Tree}
    (success : (view.reduce limit tree).outcome = .ok left?) :
    left? = view.remains tree := by
  rw [outcome_reduce] at success
  split at success
  · simpa using success.symm
  · simp at success

/-! ## Every node of the result -/

theorem children_labeledNode (view : View) (label : String) (kept : List Tree) :
    ∀ child ∈ (view.labeledNode label kept).children, child ∈ kept := by
  unfold labeledNode
  split
  · split
    · split <;> simp [Tree.children]
    · simp [Tree.children]
  · simp [Tree.children]

/-- A rebuilt node is one of the nodes that were kept, or is right above them. -/
theorem children_rebuilt (view : View) {treatment : Treatment}
    {label? : Option String} {kept : List Tree} {result : Tree}
    (left : view.rebuilt treatment label? kept = some result) :
    result ∈ kept ∨ ∀ child ∈ result.children, child ∈ kept := by
  unfold rebuilt at left
  split at left
  case h_1 => simp at left
  case h_2 only =>
    by_cases passing : treatment = .pass
    · simp only [passing, if_true, Option.some.injEq] at left
      subst result
      exact .inr fun child member => member
    · simp only [passing, if_false, Option.some.injEq] at left
      exact .inl (by simp [left])
  case h_3 =>
    simp only [Option.some.injEq] at left
    subst result
    exact .inr fun child member => member
  case h_4 label =>
    simp only [Option.some.injEq] at left
    subst result
    right
    split <;> simp [Tree.children]
  case h_5 label _ =>
    simp only [Option.some.injEq] at left
    subst result
    exact .inr (view.children_labeledNode label kept)

theorem children_flattened (view : View) (label? : Option String) (text : String) :
    ∀ child ∈ (view.flattened label? text).children, child.isLeaf = true := by
  unfold flattened
  split
  · simp [Tree.children]
  · split
    · simp [Tree.children]
    · split <;> simp [Tree.children, Tree.isLeaf]

theorem children_marked (label? : Option String) (mark : String) :
    ∀ child ∈ (marked label? mark).children, child.isLeaf = true := by
  cases label? <;> simp [marked, Tree.children, Tree.isLeaf]

/--
Below the node that a step makes there are only words and nodes that were kept.
-/
theorem children_finish (view : View) {tree : Tree} {kept : List Tree}
    {result : Tree} (left : view.finish tree kept = some result) :
    result ∈ kept ∨
      ∀ child ∈ result.children, child.isLeaf = true ∨ child ∈ kept := by
  have stepped := view.stepped_step tree
  unfold finish at left
  generalize view.step tree = answer at stepped left
  have ofRebuilt {treatment : Treatment} {label? : Option String}
      (rebuilt : view.rebuilt treatment label? kept = some result) :
      result ∈ kept ∨
        ∀ child ∈ result.children, child.isLeaf = true ∨ child ∈ kept := by
    rcases view.children_rebuilt rebuilt with same | below
    · exact .inl same
    · exact .inr fun child member => .inr (below child member)
  cases stepped with
  | word text =>
      simp only [Option.some.injEq] at left
      subst result
      simp [Tree.children]
  | deleted treated => simp at left
  | marked space =>
      simp only [Option.some.injEq] at left
      subst result
      exact .inr fun child member => .inl (children_marked _ _ child member)
  | flattened treated word =>
      simp only [Option.some.injEq] at left
      subst result
      exact .inr fun child member =>
        .inl (view.children_flattened _ _ child member)
  | trimFlattened treated word =>
      simp only [Option.some.injEq] at left
      subst result
      simp [Tree.children]
  | sequence children => exact ofRebuilt left
  | trimmed treated word => exact ofRebuilt left
  | unboxed treated word => exact ofRebuilt left
  | passed treated word => exact ofRebuilt left

/--
What every word has, and what every node that is made over such nodes has, is
had by all nodes of a reduced tree.
-/
theorem forall_nodes_remains (view : View) (property : Tree → Prop)
    (word : ∀ text, property (.leaf text))
    (made : ∀ tree kept result,
      (tree.children = [] → kept = []) → (∀ node ∈ kept, property node) →
        view.finish tree kept = some result → property result)
    (tree result : Tree) (left : view.remains tree = some result) :
    ∀ node ∈ result.nodes, property node := by
  induction tree using Tree.induction generalizing result with
  | node tree below =>
      have keptHold : ∀ kept ∈ view.remainsAll tree.children,
          ∀ node ∈ kept.nodes, property node := by
        intro kept isKept
        obtain ⟨child, isChild, childLeft⟩ := (view.mem_remainsAll _ _).mp isKept
        exact below child isChild kept childLeft
      have keptRoots : ∀ kept ∈ view.remainsAll tree.children, property kept := by
        intro kept isKept
        exact ((Tree.forall_mem_nodes_iff property kept).mp
          (keptHold kept isKept)).1
      rw [remains_eq_finish] at left
      have holds := made tree _ result view.remainsAll_eq_nil keptRoots left
      rcases view.children_finish left with same | inner
      · exact keptHold result same
      · refine (Tree.forall_mem_nodes_iff property result).mpr ⟨holds, ?_⟩
        intro child isChild
        rcases inner child isChild with isWord | isKept
        · obtain ⟨text, rfl⟩ := (Tree.isLeaf_iff child).mp isWord
          simpa [Tree.nodes] using word text
        · exact keptHold child isKept

end View

end LojbanTree
