import LojbanTree.Tree.Basic

/-!
# Surface text

The surface text of a tree is what was said: the words of its leaves, one
after another, without any label.

`Tree.surface` collects it with a stack of half-read child lists, so that the
depth of the tree does not bound the walk.  `Tree.spoken` says what the text
is, by recursion on the tree, and `surface_eq_spoken` ties the two together.
-/

namespace LojbanTree

namespace Tree

mutual

/-- The words of a tree in order, joined without a separator. -/
def spoken : Tree → String
  | .leaf text => text
  | .labeled _ children | .unlabeled children => spokenAll children

/-- The words of several trees in order. -/
def spokenAll : List Tree → String
  | [] => ""
  | tree :: rest => spoken tree ++ spokenAll rest

end

/--
Append to `text` what the child lists on the stack still hold, the top of the
stack first.
-/
def gather (text : String) : List (List Tree) → String
  | [] => text
  | [] :: pending => gather text pending
  | (.leaf word :: siblings) :: pending =>
      gather (text ++ word) (siblings :: pending)
  | (.labeled _ children :: siblings) :: pending =>
      gather text (children :: siblings :: pending)
  | (.unlabeled children :: siblings) :: pending =>
      gather text (children :: siblings :: pending)
termination_by pending => sizeOf pending
decreasing_by all_goals simp +arith

/-- The surface text of a tree. -/
def surface : Tree → String
  | .leaf text => text
  | .labeled _ children | .unlabeled children => gather "" [children]

/-- A stack of child lists contributes the words of each list in turn. -/
theorem gather_eq (text : String) (pending : List (List Tree)) :
    gather text pending = text ++ String.join (pending.map spokenAll) := by
  fun_induction gather text pending with
  | case1 => simp [String.join]
  | case2 => simp_all [spokenAll, String.join]
  | case3 => simp_all [spokenAll, spoken, String.append_assoc]
  | case4 => simp_all [spokenAll, spoken, String.append_assoc]
  | case5 => simp_all [spokenAll, spoken, String.append_assoc]

/-- The walk with a stack reads off the words in order. -/
@[simp]
theorem surface_eq_spoken (tree : Tree) : tree.surface = tree.spoken := by
  cases tree with
  | leaf _ => simp [surface, spoken]
  | labeled _ _ => simp [surface, spoken, gather_eq]
  | unlabeled _ => simp [surface, spoken, gather_eq]

end Tree

end LojbanTree
