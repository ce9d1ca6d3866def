import LojbanTree.Rendering.Bracketed
import LojbanTree.Tree.Encoding
import LojbanTree.View.Basic

/-!
# Output formats

A format has a name and writes a tree that a view has left.  There are two of
them: the array form, and the bracketed reading form, in which labels get a
colon when word classes are shown.
-/

namespace LojbanTree

/-- A way to write a tree. -/
structure Format where
  name : String
  description : String
  write : View → Tree → Run String

namespace Format

/-- Write a tree in its array form. -/
def json : Format where
  name := "json"
  description := "Nested JSON arrays, the same encoding the parser emits"
  write := fun _ tree => .done tree.jsonText

/-- Write a tree in its reading form. -/
def text : Format where
  name := "text"
  description := "Human-readable bracketed tree"
  write := fun view tree => do
    let array := tree.jsonText
    Run.write
      (List.replicate (Bracketed.strays view.showWordClasses array) .strayBracket)
    .done (Bracketed.ofJsonText view.showWordClasses array)

/-- A format that writes the same text for every tree. -/
def fixed (name output : String) : Format where
  name := name
  description := ""
  write := fun _ _ => .done output

/-- A format that cannot write any tree. -/
def failing (name reason : String) : Format where
  name := name
  description := ""
  write := fun _ _ => .fail (.format (.failed reason))

end Format

end LojbanTree
