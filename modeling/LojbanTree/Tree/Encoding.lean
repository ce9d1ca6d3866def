import LojbanTree.Journal
import LojbanTree.Json.Nesting
import LojbanTree.Json.Printer
import LojbanTree.Json.Reader

/-!
# Trees as nested arrays

In JSON a leaf is a string and a node is an array, with its label in front as
one more string.  Reading an array takes a string in front as a label and all
other strings as leaves.  An element that is neither a string nor an array
becomes a leaf that holds its compact text, with a warning.

Reading gives up on arrays nested more deeply than a limit, the outermost one
at depth zero.  The nesting of a text is measured before it is read as JSON,
so a text that is nested too deeply is refused whatever else is wrong with it.
-/

namespace LojbanTree

namespace Tree

mutual

/-- The array form of a tree. -/
def toJson : Tree → Json
  | .leaf text => .string text
  | .labeled name children => .array (.string name :: toJsonAll children)
  | .unlabeled children => .array (toJsonAll children)

/-- The array forms of several trees. -/
def toJsonAll : List Tree → List Json
  | [] => []
  | tree :: rest => toJson tree :: toJsonAll rest

end

/-- The compact text of the array form. -/
def jsonText (tree : Tree) : String := tree.toJson.compact

/-- Give up if a depth is beyond the limit. -/
def checkDepth (limit depth : Nat) : Run Unit :=
  if limit < depth then .fail (.tooDeep limit) else .done ()

mutual

/-- The tree of a value that takes the given depth if it is an array. -/
def ofElement (limit depth : Nat) : Json → Run Tree
  | .string text => .done (.leaf text)
  | .array (.string name :: elements) => do
      checkDepth limit depth
      .labeled name <$> ofElements limit (depth + 1) elements
  | .array elements => do
      checkDepth limit depth
      .unlabeled <$> ofElements limit (depth + 1) elements
  | other => do
      Run.write [.oddElement other.kind]
      .done (.leaf other.compact)

/-- The trees of several values that take the given depth. -/
def ofElements (limit depth : Nat) : List Json → Run (List Tree)
  | [] => .done []
  | element :: rest => do
      let tree ← ofElement limit depth element
      (tree :: ·) <$> ofElements limit depth rest

end

/-- The tree of a decoded value. -/
def ofJson (limit : Nat) (value : Json) : Run Tree :=
  match value with
  | .array elements => ofElement limit 0 (.array elements)
  | other => .fail (.input (.notArray other.kind))

/-- The tree that a text holds. -/
def ofText (limit : Nat) (text : String) : Run Tree :=
  if limit + 1 < Json.peak text then
    .fail (.tooDeep limit)
  else
    match Json.read text with
    | .ok value => ofJson limit value
    | .error failure => .fail (.input (.malformed failure))

end Tree

end LojbanTree
