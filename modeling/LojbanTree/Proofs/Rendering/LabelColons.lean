import LojbanTree.Proofs.Rendering.Drawing
import LojbanTree.Proofs.Tree.RoundTrip

/-!
# Which labels get a colon

In the reading form a label that stands before a node should get a colon.  The
colons are set from left to right, and the bracket behind a new colon cannot be
the one in front of another label, so that of labels directly inside one another
every other one is passed over.

`Tree.withColons` writes the colons into the labels of a tree.
`Bracketed.colons_complete_iff` says which colons the reading form has, and that
these are all that there should be if and only if no label that stands before a
node has another such label right behind it.
-/

namespace LojbanTree

namespace Tree

open Drawing

/-! ## Nodes with a text in their first slot -/

/-- The text in the first slot of a node, and what is in its other slots. -/
def heading? : Tree → Option (String × List Tree)
  | .labeled name children => some (name, children)
  | .unlabeled (.leaf text :: children) => some (text, children)
  | .leaf _ | .unlabeled _ => none

/-- Whether a node has a label in its first slot and a node in its second one. -/
def labels (tree : Tree) : Bool :=
  tree.heading?.any fun (text, others) => labelsNode text others

/-- Whether the node behind a label of a node has a label before a node as well. -/
def isChained (tree : Tree) : Bool :=
  tree.labels && tree.heading?.any fun (_, others) => others.head?.any labels

/-- A statement holds of all trees if it holds of words, and nodes inherit it. -/
theorem headingInduction {motive : Tree → Prop}
    (leaf : ∀ text, motive (.leaf text))
    (headed : ∀ tree text others, tree.heading? = some (text, others) →
      (∀ child ∈ others, motive child) → motive tree)
    (bare : ∀ children, (unlabeled children).startsWithLeaf = false →
      (∀ child ∈ children, motive child) → motive (.unlabeled children))
    (tree : Tree) : motive tree := by
  induction tree using Tree.induction with
  | node tree below =>
      match tree, below with
      | .leaf text, _ => exact leaf text
      | .labeled name children, below => exact headed _ name children rfl below
      | .unlabeled (.leaf text :: children), below =>
          exact headed _ text children rfl (List.forall_mem_cons.mp below).2
      | .unlabeled [], below => exact bare _ rfl below
      | .unlabeled (.labeled _ _ :: _), below => exact bare _ rfl below
      | .unlabeled (.unlabeled _ :: _), below => exact bare _ rfl below

/--
A text in the first slot is a name, or a word in front of all other children.
-/
theorem eq_of_heading {tree : Tree} {text : String} {others : List Tree}
    (heading : tree.heading? = some (text, others)) :
    tree = .labeled text others ∨ tree = .unlabeled (.leaf text :: others) := by
  unfold heading? at heading
  split at heading <;>
    simp only [Option.some.injEq, Prod.mk.injEq, reduceCtorEq] at heading
  case h_1 => exact .inl (by rw [heading.1, heading.2])
  case h_2 => exact .inr (by rw [heading.1, heading.2])

theorem heading?_of_startsWithLeaf_eq_false {children : List Tree}
    (noLeaf : (unlabeled children).startsWithLeaf = false) :
    (unlabeled children).heading? = none := by
  rw [heading?]
  rintro text rest rfl
  simp [startsWithLeaf] at noLeaf

/--
A node with a text in its first slot is drawn alike whether or not that is its
name.
-/
theorem drawn_of_heading {tree : Tree} {text : String} {others : List Tree}
    (heading : tree.heading? = some (text, others)) (colons free : Bool)
    (level : Nat) :
    tree.drawn colons free level =
      enclosed level
        (firstSlot (colons && free && labelsNode text others) text ::
          drawnAll colons (!(colons && free && labelsNode text others))
            (level + 1) others) := by
  rcases eq_of_heading heading with rfl | rfl <;> rw [drawn]

theorem drawn_of_startsWithLeaf_eq_false {children : List Tree}
    (noLeaf : (unlabeled children).startsWithLeaf = false) (colons free : Bool)
    (level : Nat) :
    (unlabeled children).drawn colons free level =
      enclosed level (drawnAll colons true (level + 1) children) := by
  rw [drawn]
  rintro text rest rfl
  simp [startsWithLeaf] at noLeaf

/-! ## Colons in labels -/

/-- A text with a colon behind it if it gets one. -/
def withColon (colon : Bool) (text : String) : String :=
  if colon then text ++ ":" else text

mutual

/--
A tree with colons behind its labels that stand before a node.  Unless every one of
them gets a colon, one is passed over whose bracket is not free because it follows
a colon already.
-/
def withColons (every free : Bool) : Tree → Tree
  | .leaf text => .leaf text
  | .labeled name children =>
      let colon := free && labelsNode name children
      .labeled (withColon colon name)
        (withColonsAll every (every || !colon) children)
  | .unlabeled (.leaf text :: children) =>
      let colon := free && labelsNode text children
      .unlabeled (.leaf (withColon colon text) ::
        withColonsAll every (every || !colon) children)
  | .unlabeled children => .unlabeled (withColonsAll every true children)

/-- Several trees with colons, the bracket of the first one free or not. -/
def withColonsAll (every free : Bool) : List Tree → List Tree
  | [] => []
  | tree :: rest => withColons every free tree :: withColonsAll every true rest

end

section

variable (every free : Bool)

theorem heading?_withColons {tree : Tree} {text : String} {others : List Tree}
    (heading : tree.heading? = some (text, others)) :
    (tree.withColons every free).heading? =
      some (withColon (free && labelsNode text others) text,
        withColonsAll every
          (every || !(free && labelsNode text others)) others) := by
  rcases eq_of_heading heading with rfl | rfl <;> rw [withColons, heading?]

theorem withColons_of_startsWithLeaf_eq_false {children : List Tree}
    (noLeaf : (unlabeled children).startsWithLeaf = false) :
    (unlabeled children).withColons every free =
      .unlabeled (withColonsAll every true children) := by
  rw [withColons]
  rintro text rest rfl
  simp [startsWithLeaf] at noLeaf

theorem isLeaf_withColons (tree : Tree) :
    (tree.withColons every free).isLeaf = tree.isLeaf := by
  unfold withColons
  split <;> rfl

theorem startsWithLeaf_withColonsAll {children : List Tree}
    (noLeaf : (unlabeled children).startsWithLeaf = false) :
    (unlabeled (withColonsAll every free children)).startsWithLeaf = false := by
  have first_isLeaf (first : Tree) (rest : List Tree) :
      (unlabeled (first :: rest)).startsWithLeaf = first.isLeaf := by
    cases first <;> rfl
  cases children with
  | nil => rfl
  | cons first rest =>
      rw [withColonsAll, first_isLeaf, isLeaf_withColons,
        ← first_isLeaf first rest]
      exact noLeaf

theorem mem_withColonsAll {trees : List Tree} {result : Tree}
    (member : result ∈ withColonsAll every free trees) :
    ∃ tree ∈ trees, ∃ free, tree.withColons every free = result := by
  induction trees generalizing free with
  | nil => simp [withColonsAll] at member
  | cons tree rest inRest =>
      rcases List.mem_cons.mp member with rfl | inTail
      · exact ⟨tree, List.mem_cons_self, free, rfl⟩
      · obtain ⟨other, isOther, made⟩ := inRest true inTail
        exact ⟨other, List.mem_cons_of_mem tree isOther, made⟩

end

/-! ## Readable trees -/

/--
Whether no name and no word has a character with a meaning in the array form.
-/
def IsReadableTree (tree : Tree) : Prop :=
  ∀ node ∈ tree.nodes, ∀ char ∈ node.ownText.toList, IsReadable char

/-- A tree with a heading is readable if the heading and all others are. -/
theorem isReadableTree_iff_of_heading {tree : Tree} {text : String}
    {others : List Tree} (heading : tree.heading? = some (text, others)) :
    tree.IsReadableTree ↔
      (∀ char ∈ text.toList, IsReadable char) ∧ ∀ child ∈ others,
        child.IsReadableTree := by
  rcases eq_of_heading heading with rfl | rfl
  · rw [IsReadableTree, forall_mem_nodes_iff]
    rfl
  · rw [IsReadableTree, forall_mem_nodes_iff]
    simp [ownText, children, nodes, IsReadableTree]

theorem isReadableTree_unlabeled_iff (children : List Tree) :
    (unlabeled children).IsReadableTree ↔ ∀ child ∈ children,
      child.IsReadableTree := by
  rw [IsReadableTree, forall_mem_nodes_iff]
  simp [ownText, Tree.children, IsReadableTree]

theorem isReadable_withColon {text : String} (colon : Bool)
    (readable : ∀ char ∈ text.toList, IsReadable char) :
    ∀ char ∈ (withColon colon text).toList, IsReadable char := by
  have atColon : IsReadable ':' := by decide
  cases colon with
  | false => exact readable
  | true => simpa [withColon, or_imp, forall_and, atColon] using readable

/-- A tree stays readable when its labels get their colons. -/
theorem isReadableTree_withColons (tree : Tree) (readable : tree.IsReadableTree)
    (every free : Bool) : (tree.withColons every free).IsReadableTree := by
  induction tree using headingInduction generalizing free with
  | leaf text => exact readable
  | headed tree text others heading below =>
      obtain ⟨atText, atOthers⟩ :=
        (isReadableTree_iff_of_heading heading).mp readable
      apply (isReadableTree_iff_of_heading
        (heading?_withColons every free heading)).mpr
      refine ⟨isReadable_withColon _ atText, ?_⟩
      intro result member
      obtain ⟨child, isChild, freed, rfl⟩ := mem_withColonsAll every _ member
      exact below child isChild (atOthers child isChild) freed
  | bare children noLeaf below =>
      rw [isReadableTree_unlabeled_iff] at readable
      rw [withColons_of_startsWithLeaf_eq_false every free noLeaf,
        isReadableTree_unlabeled_iff]
      intro result member
      obtain ⟨child, isChild, freed, rfl⟩ := mem_withColonsAll every _ member
      exact below child isChild (readable child isChild) freed

/-! ## The drawing with colons -/

section

variable {every free : Bool} {level : Nat}

theorem firstSlot_eq (colon : Bool) (text : String) :
    firstSlot colon text = (withColon colon text).toList := by
  cases colon <;> simp [firstSlot, withColon]

/-- With its colons in the labels, a tree is drawn as it is. -/
theorem drawn_withColons_of_heading {tree : Tree} {text : String}
    {others : List Tree} (heading : tree.heading? = some (text, others)) :
    (tree.withColons every free).drawn false true level =
      enclosed level
        (firstSlot (free && labelsNode text others) text ::
          drawnAll false true (level + 1)
            (withColonsAll every
              (every || !(free && labelsNode text others)) others)) := by
  rw [drawn_of_heading (heading?_withColons every free heading),
    firstSlot_eq _ text]
  rfl

theorem drawn_withColons_of_startsWithLeaf_eq_false {children : List Tree}
    (noLeaf : (unlabeled children).startsWithLeaf = false) :
    ((unlabeled children).withColons every free).drawn false true level =
      enclosed level
        (drawnAll false true (level + 1) (withColonsAll every true children)) := by
  rw [withColons_of_startsWithLeaf_eq_false every free noLeaf,
    drawn_of_startsWithLeaf_eq_false
    (startsWithLeaf_withColonsAll every true noLeaf)]

theorem drawnAll_eq_withColonsAll (trees : List Tree)
    (each : ∀ tree ∈ trees, ∀ (free : Bool) (level : Nat),
      tree.drawn true free level =
        (tree.withColons false free).drawn false true level) :
    drawnAll true free level trees =
      drawnAll false true level (withColonsAll false free trees) := by
  induction trees generalizing free with
  | nil => simp only [drawnAll, withColonsAll]
  | cons tree rest inRest =>
      obtain ⟨atHead, atRest⟩ := List.forall_mem_cons.mp each
      simp only [drawnAll, withColonsAll, atHead free level, inRest atRest]

/-- The colons of a drawing are those in the labels of the tree. -/
theorem drawn_eq_withColons (tree : Tree) (free : Bool) (level : Nat) :
    tree.drawn true free level =
      (tree.withColons false free).drawn false true level := by
  induction tree using headingInduction generalizing free level with
  | leaf text => simp only [drawn, withColons]
  | headed tree text others heading below =>
      rw [drawn_of_heading heading, drawn_withColons_of_heading heading,
        drawnAll_eq_withColonsAll others below]
      simp only [Bool.true_and, Bool.false_or]
  | bare children noLeaf below =>
      rw [drawn_of_startsWithLeaf_eq_false noLeaf,
        drawn_withColons_of_startsWithLeaf_eq_false noLeaf,
        drawnAll_eq_withColonsAll children below]

end

end Tree

/-! ## Colons that are left out -/

namespace Drawing

/--
Whether a picture is a whole one with some characters left out, and nothing is left
out if and only if a condition holds.
-/
structure LeavesOut (picture whole : List Char) (complete : Prop) : Prop where
  sublist : picture.Sublist whole
  eq_iff : picture = whole ↔ complete

namespace LeavesOut

variable {picture whole picture' whole' : List Char} {complete complete' : Prop}

theorem refl (picture : List Char) : LeavesOut picture picture True :=
  ⟨List.Sublist.refl picture, by simp⟩

theorem congr (leavesOut : LeavesOut picture whole complete)
    (same : complete ↔ complete') : LeavesOut picture whole complete' :=
  ⟨leavesOut.sublist, leavesOut.eq_iff.trans same⟩

/--
Both parts together leave out what each of them does.  Neither part is longer than
its whole, so that neither can make up for the other.
-/
theorem append (left : LeavesOut picture whole complete)
    (right : LeavesOut picture' whole' complete') :
    LeavesOut (picture ++ picture') (whole ++ whole') (complete ∧ complete') := by
  refine ⟨left.sublist.append right.sublist, ?_⟩
  rw [← left.eq_iff, ← right.eq_iff]
  constructor
  · intro same
    have lengths := congrArg List.length same
    simp only [List.length_append] at lengths
    have leftLength := left.sublist.length_le
    have rightLength := right.sublist.length_le
    exact ⟨left.sublist.eq_of_length (by omega),
      right.sublist.eq_of_length (by omega)⟩
  · rintro ⟨rfl, rfl⟩
    rfl

/-- What stands on both sides of a picture is whole. -/
theorem between (inside : LeavesOut picture whole complete)
    (before after : List Char) :
    LeavesOut (before ++ (picture ++ after))
      (before ++ (whole ++ after)) complete :=
  ((refl before).append (inside.append (refl after))).congr (by simp)

theorem firstSlot (colon expected : Bool) (text : String)
    (less : colon = true → expected = true) :
    LeavesOut (firstSlot colon text) (Drawing.firstSlot expected text)
      (colon = expected) := by
  cases colon with
  | true =>
      rw [less rfl]
      exact (refl _).congr (by simp)
  | false =>
      cases expected with
      | false => exact (refl _).congr (by simp)
      | true => exact ⟨by simp [Drawing.firstSlot], by simp [Drawing.firstSlot]⟩

theorem of_cons {char : Char}
    (leavesOut : LeavesOut (char :: picture) (char :: whole) complete) :
    LeavesOut picture whole complete := by
  obtain ⟨sublist, eq_iff⟩ := leavesOut
  exact ⟨List.cons_sublist_cons.mp sublist, by simpa using eq_iff⟩

theorem enclosed {slots slots' : List (List Char)}
    (inside : LeavesOut ([' '].intercalate slots)
      ([' '].intercalate slots') complete)
    (level : Nat) :
    LeavesOut (enclosed level slots) (Drawing.enclosed level slots') complete := by
  have around := inside.between (round level ++ [openings.getD (level % 4) '('])
    (closings.getD (level % 4) ')' :: round level)
  simpa [Drawing.enclosed] using around

end LeavesOut

/-- Slots with a space in front of each. -/
def spread (slots : List (List Char)) : List Char :=
  slots.flatMap fun slot => ' ' :: slot

theorem spread_cons (slot : List Char) (slots : List (List Char)) :
    spread (slot :: slots) = ' ' :: [' '].intercalate (slot :: slots) := by
  rw [intercalate_cons]
  rfl

end Drawing

namespace Tree

open Drawing

/-- Whether all labels of a tree that stand before a node get their colons. -/
def IsComplete (free : Bool) (tree : Tree) : Prop :=
  (free = true ∨ tree.labels = false) ∧ ∀ node ∈ tree.nodes, node.isChained = false

/-- Whether all labels of several trees get their colons. -/
def AreComplete (free : Bool) (trees : List Tree) : Prop :=
  (free = true ∨ trees.head?.any labels = false) ∧
    ∀ tree ∈ trees, ∀ node ∈ tree.nodes, node.isChained = false

theorem areComplete_cons_iff (free : Bool) (tree : Tree) (rest : List Tree) :
    AreComplete free (tree :: rest) ↔ tree.IsComplete free ∧
      AreComplete true rest := by
  simp [AreComplete, IsComplete, and_assoc]

/--
A heading gets its colon if it is free, and the first one below is free if not.
-/
theorem isComplete_iff_of_heading {tree : Tree} {text : String}
    {others : List Tree}
    (heading : tree.heading? = some (text, others)) (free : Bool) :
    tree.IsComplete free ↔
      (free && labelsNode text others) = labelsNode text others ∧
        AreComplete (!(free && labelsNode text others)) others := by
  have isLabeled : tree.labels = labelsNode text others := by
    simp [labels, heading]
  have chained :
      tree.isChained = (labelsNode text others && others.head?.any labels) := by
    simp [isChained, isLabeled, heading]
  have ofNodes :
      (∀ node ∈ tree.nodes, node.isChained = false) ↔
        tree.isChained = false ∧ ∀ child ∈ others, ∀ node ∈ child.nodes,
          node.isChained = false := by
    rcases eq_of_heading heading with rfl | rfl
    · rw [forall_mem_nodes_iff]
      rfl
    · rw [forall_mem_nodes_iff]
      simp [children, nodes, isChained, labels, heading?]
  rw [IsComplete, AreComplete, ofNodes, isLabeled, chained]
  cases free <;> cases labelsNode text others <;> simp

theorem isComplete_unlabeled_iff {children : List Tree} (free : Bool)
    (noLeaf : (unlabeled children).startsWithLeaf = false) :
    (unlabeled children).IsComplete free ↔ AreComplete true children := by
  have bare := heading?_of_startsWithLeaf_eq_false noLeaf
  rw [IsComplete, AreComplete, forall_mem_nodes_iff]
  simp [isChained, labels, bare, Tree.children]

theorem leavesOut_spread (trees : List Tree)
    (each : ∀ tree ∈ trees, ∀ (free : Bool) (level : Nat),
      LeavesOut (tree.drawn true free level)
        ((tree.withColons true true).drawn false true level)
          (tree.IsComplete free))
    (free : Bool) (level : Nat) :
    LeavesOut (spread (drawnAll true free level trees))
      (spread (drawnAll false true level (withColonsAll true true trees)))
      (AreComplete free trees) := by
  induction trees generalizing free with
  | nil =>
      exact (LeavesOut.refl []).congr (by simp [AreComplete])
  | cons tree rest inRest =>
      obtain ⟨atHead, atRest⟩ := List.forall_mem_cons.mp each
      have inBoth := (atHead free level).append (inRest atRest true)
      rw [← areComplete_cons_iff] at inBoth
      simpa [spread, drawnAll, withColonsAll] using inBoth.between [' '] []

/-- A drawing has all that it should have but for the colons of some labels. -/
theorem leavesOut_drawn (tree : Tree) (free : Bool) (level : Nat) :
    LeavesOut (tree.drawn true free level)
      ((tree.withColons true true).drawn false true level)
        (tree.IsComplete free) := by
  induction tree using headingInduction generalizing free level with
  | leaf text =>
      have complete : (leaf text).IsComplete free := by
        simp [IsComplete, labels, isChained, heading?]
      exact (LeavesOut.refl text.toList).congr (by simp [complete])
  | headed tree text others heading below =>
      rw [drawn_of_heading heading, drawn_withColons_of_heading heading]
      apply LeavesOut.enclosed
      rw [intercalate_cons, intercalate_cons]
      have atText := LeavesOut.firstSlot (free && labelsNode text others)
        (labelsNode text others) text (by simp)
      have atOthers := leavesOut_spread others below
        (!(free && labelsNode text others)) (level + 1)
      exact (atText.append atOthers).congr
        (isComplete_iff_of_heading heading free).symm
  | bare children noLeaf below =>
      rw [drawn_of_startsWithLeaf_eq_false noLeaf,
        drawn_withColons_of_startsWithLeaf_eq_false noLeaf]
      apply LeavesOut.enclosed
      have inside := (leavesOut_spread children below true (level + 1)).congr
        (isComplete_unlabeled_iff free noLeaf).symm
      cases children with
      | nil => exact inside
      | cons first rest =>
          simp only [drawnAll, withColonsAll, spread_cons] at inside ⊢
          exact inside.of_cons

end Tree

/-! ## The reading form with colons and without -/

namespace Bracketed

open Drawing

/--
The reading form of a readable tree is its drawing from the outermost level on.
-/
theorem ofJsonText_eq_drawn {tree : Tree} (readable : tree.IsReadableTree)
    (colons : Bool) :
    ofJsonText colons tree.jsonText =
      String.ofList (tree.drawn colons true 0) := by
  obtain ⟨drawn, _⟩ : Draws colons 0 .outside tree.bare
    (tree.drawn colons true 0) := by
    have atTree := (Tree.isDrawn_of_isReadable tree readable).free (fun _ => rfl)
      (Draws.nil colons 0 .outside)
    simpa using atTree
  have flat :
      (flat colons tree.jsonText).toList = passed colons .outside tree.bare := by
    simp [Bracketed.flat, passed, Tree.jsonText, Json.compact, Tree.bare]
  rw [ofJsonText, Brackets.prettify, flat, drawn]

/--
With colons, the reading form of a tree is the one without colons of the tree in
whose labels they are written, with every other label passed over where labels are
directly inside one another.  Nothing but colons is missing from the form in which
every label before a node has one, and none of them is missing if and only if no
node behind such a label has one itself.
-/
theorem colons_complete_iff (tree : Tree) (readable : tree.IsReadableTree) :
    ofJsonText true tree.jsonText =
      ofJsonText false (tree.withColons false true).jsonText ∧
    (ofJsonText true tree.jsonText).toList.Sublist
      (ofJsonText false (tree.withColons true true).jsonText).toList ∧
    (ofJsonText true tree.jsonText =
        ofJsonText false (tree.withColons true true).jsonText ↔
      ∀ node ∈ tree.nodes, node.isChained = false) := by
  have written (every : Bool) :
      ofJsonText false (tree.withColons every true).jsonText =
        String.ofList ((tree.withColons every true).drawn false true 0) :=
    ofJsonText_eq_drawn (tree.isReadableTree_withColons readable every true) false
  obtain ⟨sublist, eq_iff⟩ := tree.leavesOut_drawn true 0
  rw [ofJsonText_eq_drawn readable, written, written]
  refine ⟨?_, ?_, ?_⟩
  · rw [tree.drawn_eq_withColons]
  · simpa using sublist
  · rw [String.ofList_inj, eq_iff]
    simp [Tree.IsComplete]

/-- Three labels directly inside one another, and one before a word. -/
def labelsInLabels : Tree :=
  .labeled "text"
    [.labeled "sentence" [.labeled "sumti" [.labeled "KOhA" [.leaf "mi"]]]]

theorem isReadableTree_labelsInLabels : labelsInLabels.IsReadableTree := by
  simp [labelsInLabels, Tree.IsReadableTree, Tree.nodes, Tree.nodesAll,
    Tree.ownText, IsReadable]

/-- The second of three labels has no colon, although it stands before a node. -/
theorem colons_complete_iff_labelsInLabels :
    labelsInLabels.IsReadableTree ∧
      ofJsonText true labelsInLabels.jsonText =
        "(text: [sentence \x7bsumti: <KOhA mi>\x7d])" ∧
      ofJsonText true labelsInLabels.jsonText ≠
        ofJsonText false (labelsInLabels.withColons true true).jsonText := by
  have readable := isReadableTree_labelsInLabels
  obtain ⟨colons, _, complete⟩ := colons_complete_iff labelsInLabels readable
  have readable' := labelsInLabels.isReadableTree_withColons readable false true
  refine ⟨readable, ?_, ?_⟩
  · rw [colons, ofJsonText_eq_drawn readable']
    decide
  · rw [Ne, complete]
    decide

/--
Not every name before a node gets its colon, even where all labels are names.
-/
theorem not_forall_colons_complete :
    ¬ ∀ tree : Tree, tree.IsReadableTree →
        (∀ node ∈ tree.nodes, node.startsWithLeaf = false) →
          ofJsonText true tree.jsonText =
            ofJsonText false (tree.withColons true true).jsonText := by
  intro complete
  have readable := isReadableTree_labelsInLabels
  have readable' := labelsInLabels.isReadableTree_withColons readable true true
  have same := complete labelsInLabels readable (by decide)
  rw [ofJsonText_eq_drawn readable, ofJsonText_eq_drawn readable',
    String.ofList_inj] at same
  revert same
  decide

end Bracketed

end LojbanTree
