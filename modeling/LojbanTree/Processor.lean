import LojbanTree.Reduction.Basic
import LojbanTree.Rendering.Registry
import LojbanTree.View.Mode

/-!
# Processors

A processor takes an input, reduces the tree that it holds and writes what is
left.  It fixes the view, the limit on nesting and the name of the format, for
which it asks its registry; if no name is chosen, the view decides between the
array form and the reading form.
-/

namespace LojbanTree

/-- A parse tree as it is handed in. -/
inductive Input where
  /-- The JSON text of an array form. -/
  | text (written : String)
  /-- A decoded array form. -/
  | value (decoded : Json)
  /-- A tree that is already built. -/
  | tree (built : Tree)

namespace Input

/-- The tree of an input, where a word alone counts as a tree. -/
def anyTree (limit : Nat) : Input → Run Tree
  | .text written => Tree.ofText limit written
  | .value decoded => Tree.ofJson limit decoded
  | .tree built => .done built

/-- The tree of an input. -/
def toTree (limit : Nat) : Input → Run Tree
  | .tree (.leaf word) => .fail (.input (.bareLeaf word))
  | input => input.anyTree limit

end Input

/-- A view with the limit on nesting under which it reduces trees. -/
structure Reducer where
  view : View
  limit : Nat

namespace Reducer

/-- The limit on nesting unless another one is set. -/
def standardLimit : Nat := 512

/-- The reducer of a view. -/
def ofView (view : View) : Reducer := ⟨view, standardLimit⟩

/-- The reducer with another limit. -/
def withLimit (reducer : Reducer) (limit : Nat) : Reducer :=
  { reducer with limit := limit }

/-- What is left of a tree, if anything. -/
def reduce (reducer : Reducer) (tree : Tree) : Run (Option Tree) :=
  reducer.view.reduce reducer.limit tree

end Reducer

/-- A name for which a registry can be asked. -/
structure FormatName where
  name : String
  deriving DecidableEq, Repr

/--
A reducer with a limit on the nesting of inputs, and the name that was chosen
for a format of a registry.
-/
structure Processor where
  reducer : Reducer
  registry : Registry
  chosen : String
  limit : Nat

namespace Processor

/-- The limit on nesting unless another one is set. -/
def standardLimit : Nat := Reducer.standardLimit

/-- The name that leaves the choice of a format to the view. -/
def automatic : String := "auto"

/-- The processor of a view. -/
def ofView (view : View) : Processor :=
  ⟨.ofView view, .standard, automatic, standardLimit⟩

/-- The processor of a mode. -/
def ofMode (mode : Mode) : Except Fault Processor :=
  (mode.view.map ofView).mapError .option

/-- The processor with another limit, for inputs and for reducing. -/
def withLimit (processor : Processor) (limit : Nat) : Processor :=
  { processor with reducer := processor.reducer.withLimit limit, limit := limit }

/-- The processor with the format of a name. -/
def withFormat (processor : Processor) (name : String) : Except Fault Processor :=
  if name = automatic ∨ processor.registry.has name then
    .ok { processor with chosen := name }
  else
    .error
      (.option (.unknownFormat name (processor.registry.names ++ [automatic])))

/-- The view of a processor. -/
def view (processor : Processor) : View := processor.reducer.view

/-- The name of the format that is used. -/
def format (processor : Processor) : FormatName :=
  if processor.chosen = automatic then
    ⟨if processor.view.json then "json" else "text"⟩
  else
    ⟨processor.chosen⟩

/-- What is left of the tree of an input, if anything. -/
def reduce (processor : Processor) (input : Input) : Run (Option Tree) := do
  let tree ← input.toTree processor.limit
  processor.reducer.reduce tree

/-- The text of what is left; nothing is written as the empty sequence. -/
def process (processor : Processor) (input : Input) : Run String := do
  let left? ← processor.reduce input
  processor.registry.write processor.format.name processor.view (left?.getD .empty)

end Processor

/-- Process an input in a mode, with everything else as it is by itself. -/
def postprocess (input : Input) (mode : Mode) : Run String := do
  let processor ← Run.ofExcept (Processor.ofMode mode)
  processor.process input

end LojbanTree
