import LojbanTree.Proofs.Tree.Nodes
import Mathlib.Logic.Relation

/-!
# The walk that collects surface text

`Tree.surface` reads the words of a tree in a loop over a stack of child lists.
`Walk.turn?` is one turn of that loop, and `Walk.Takes` follows it from turn to
turn.  Every turn leaves the text that the loop will end with as it is, and one
turn fewer to take, so that the loop ends, after a number of turns that the tree
tells in advance.

The text does not depend on the labels: `Tree.Unlabels` takes one label away at
any place of a tree.
-/

namespace LojbanTree

namespace Tree

/--
A walk that is under way: the text so far, and the child lists that are not read
to their end, the innermost first.
-/
structure Walk where
  text : String
  pending : List (List Tree)

mutual

/-- How many turns of a walk it takes to read a tree that is met in a list. -/
def turns : Tree → Nat
  | .leaf _ => 1
  | .labeled _ children | .unlabeled children => levelTurns children + 1

/-- How many turns it takes to read a list to its end and to drop it. -/
def levelTurns : List Tree → Nat
  | [] => 1
  | tree :: rest => turns tree + levelTurns rest

end

/-- The walk over a node before its first turn. -/
def walk (tree : Tree) : Walk := ⟨"", [tree.children]⟩

namespace Walk

/-! ## One turn -/

/-- What one turn makes of a walk; a walk without a list is over. -/
def turn? (walk : Walk) : Option Walk :=
  match walk.pending with
  | [] => none
  | [] :: outer => some ⟨walk.text, outer⟩
  | (.leaf word :: siblings) :: outer =>
      some ⟨walk.text ++ word, siblings :: outer⟩
  | (.labeled _ children :: siblings) :: outer
  | (.unlabeled children :: siblings) :: outer =>
      some ⟨walk.text, children :: siblings :: outer⟩

/-- How many turns it takes to read child lists, one after another. -/
def turnsFor : List (List Tree) → Nat
  | [] => 0
  | level :: outer => levelTurns level + turnsFor outer

/-- The loop ends when no list is pending. -/
theorem turn?_eq_none_iff (walk : Walk) :
    walk.turn? = none ↔ walk.pending = [] := by
  obtain ⟨text, pending⟩ := walk
  rcases pending with _ | ⟨_ | ⟨_ | _ | _, siblings⟩, outer⟩ <;> simp [turn?]

/-- A turn does not change the text that the loop ends with. -/
theorem gather_of_turn? {walk next : Walk} (turned : walk.turn? = some next) :
    gather next.text next.pending = gather walk.text walk.pending := by
  obtain ⟨text, pending⟩ := walk
  rcases pending with _ | ⟨_ | ⟨_ | _ | _, siblings⟩, outer⟩ <;>
    simp only [turn?, reduceCtorEq, Option.some.injEq] at turned
  all_goals
    subst turned
    simp only [gather]

/-- Every turn is one of those that the lists take. -/
theorem turnsFor_of_turn? {walk next : Walk} (turned : walk.turn? = some next) :
    turnsFor walk.pending = turnsFor next.pending + 1 := by
  obtain ⟨text, pending⟩ := walk
  rcases pending with _ | ⟨_ | ⟨_ | _ | _, siblings⟩, outer⟩ <;>
    simp only [turn?, reduceCtorEq, Option.some.injEq] at turned
  all_goals
    subst turned
    simp only [turnsFor, levelTurns, turns]
    omega

/-! ## All turns -/

/-- Whether a walk becomes another one in the given number of turns. -/
inductive Takes : Nat → Walk → Walk → Prop where
  | none (walk : Walk) : Takes 0 walk walk
  | turn {count : Nat} {walk next last : Walk} (turned : walk.turn? = some next)
      (rest : Takes count next last) : Takes (count + 1) walk last

/--
The loop ends after the turns that its lists take, with the text that it gathers.
This is by induction on the number of turns that are left.
-/
theorem takes_turnsFor (walk : Walk) :
    Takes (turnsFor walk.pending) walk ⟨gather walk.text walk.pending, []⟩ := by
  generalize counted : turnsFor walk.pending = count
  induction count generalizing walk with
  | zero =>
      cases turned : walk.turn? with
      | some next =>
          have left := turnsFor_of_turn? turned
          omega
      | none =>
          obtain ⟨text, pending⟩ := walk
          obtain rfl : pending = [] := (turn?_eq_none_iff _).mp turned
          rw [gather]
          exact .none _
  | succ count inRest =>
      cases turned : walk.turn? with
      | none =>
          rw [(turn?_eq_none_iff walk).mp turned, turnsFor] at counted
          contradiction
      | some next =>
          have left := turnsFor_of_turn? turned
          rw [← gather_of_turn? turned]
          exact .turn turned (inRest next (by omega))

end Walk

/-! ## Text without labels -/

/--
A labeled node at some place of a tree gives way to the sequence of its children.
-/
inductive Unlabels : Tree → Tree → Prop where
  | root (name : String) (children : List Tree) :
      Unlabels (.labeled name children) (.unlabeled children)
  | inLabeled (name : String) (before after : List Tree) {child other : Tree}
      (below : Unlabels child other) :
      Unlabels (.labeled name (before ++ child :: after))
        (.labeled name (before ++ other :: after))
  | inUnlabeled (before after : List Tree) {child other : Tree}
      (below : Unlabels child other) :
      Unlabels (.unlabeled (before ++ child :: after))
        (.unlabeled (before ++ other :: after))

theorem spokenAll_congr (before after : List Tree) {child other : Tree}
    (same : other.spoken = child.spoken) :
    spokenAll (before ++ other :: after) =
      spokenAll (before ++ child :: after) := by
  simp only [spokenAll_append, spokenAll, same]

/-- Nothing that is spoken is lost with a label, wherever it is taken away. -/
theorem Unlabels.spoken_eq {tree other : Tree} (unlabels : Unlabels tree other) :
    other.spoken = tree.spoken := by
  induction unlabels with
  | root name children => simp only [spoken]
  | inLabeled name before after _ same =>
      simpa only [spoken] using spokenAll_congr before after same
  | inUnlabeled before after _ same =>
      simpa only [spoken] using spokenAll_congr before after same

/--
The loop over a node comes to an end, in as many turns as the tree tells, and ends
with the surface text.  The surface text of every tree is what its words are by
recursion, and it stays the same however many labels are taken away, and wherever.
-/
theorem surface_of_walk (tree : Tree) :
    (tree.isLeaf = false →
      Walk.Takes (levelTurns tree.children) tree.walk ⟨tree.surface, []⟩) ∧
    tree.surface = tree.spoken ∧
    ∀ other, Relation.ReflTransGen Unlabels tree other →
      other.surface = tree.surface := by
  refine ⟨?_, tree.surface_eq_spoken, ?_⟩
  · intro inner
    have gathered : gather "" [tree.children] = tree.surface := by
      cases tree with
      | leaf text => simp [isLeaf] at inner
      | labeled name children => rfl
      | unlabeled children => rfl
    rw [← gathered]
    exact tree.walk.takes_turnsFor
  · intro other unlabeled
    induction unlabeled with
    | refl => rfl
    | tail _ unlabels same =>
        rw [← same, surface_eq_spoken, surface_eq_spoken, unlabels.spoken_eq]

/-- A sentence with a label inside a sequence and a bare one. -/
def nestedLabels : Tree :=
  .labeled "sentence"
    [.leaf "mi",
      .unlabeled [.labeled "gismu" [.leaf "kla", .leaf "ma"], .labeled "KU" []]]

/-- The sentence without its label and without the label inside the sequence. -/
def nestedSequences : Tree :=
  .unlabeled
    [.leaf "mi",
      .unlabeled [.unlabeled [.leaf "kla", .leaf "ma"], .labeled "KU" []]]

/--
Ten turns read the sentence, and two labels fewer do not change what is read.
-/
theorem surface_of_walk_nestedLabels :
    nestedLabels.isLeaf = false ∧
      Relation.ReflTransGen Unlabels nestedLabels nestedSequences ∧
      Walk.Takes 10 nestedLabels.walk ⟨"miklama", []⟩ ∧
      nestedSequences.surface = "miklama" := by
  have inner : nestedLabels.isLeaf = false := rfl
  have unlabeled :
      Relation.ReflTransGen Unlabels nestedLabels nestedSequences := by
    apply Relation.ReflTransGen.head (.root _ _)
    apply Relation.ReflTransGen.single
    exact .inUnlabeled [_] [] (.inUnlabeled [] [_] (.root _ _))
  obtain ⟨ends, read, same⟩ := surface_of_walk nestedLabels
  have spoken : nestedLabels.spoken = "miklama" := by decide
  rw [spoken] at read
  refine ⟨inner, unlabeled, ?_, ?_⟩
  · have taken := ends inner
    rw [read] at taken
    exact taken
  · rw [same nestedSequences unlabeled, read]

end Tree

end LojbanTree
