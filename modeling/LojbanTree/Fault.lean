import LojbanTree.Json.Basic
import LojbanTree.Json.Failure
import LojbanTree.Text.Quoted

/-!
# What can go wrong

The causes for which a run is given up, sorted by what is at fault: the input,
an option, the depth of the tree, or the format that writes it.
-/

namespace LojbanTree

/-- Why an input is not a parse tree. -/
inductive InputFault where
  /-- The value is of a kind that no inner node has. -/
  | notArray (kind : Json.Kind)
  /-- The tree is a single word. -/
  | bareLeaf (text : String)
  /-- The text is not JSON. -/
  | malformed (failure : Json.Failure)
  deriving DecidableEq, Repr

namespace InputFault

/-- A fault of the input in words. -/
def message : InputFault → String
  | .notArray kind =>
      s!"expected a parse tree array or its JSON text, got {kind.name}"
  | .bareLeaf text =>
      s!"expected a parse tree node, got the bare leaf {Text.quoted text}"
  | .malformed failure => failure.message

end InputFault

/-- Why an option cannot be followed. -/
inductive OptionFault where
  | unknownLetter (letter : Char) (letters : String)
  /-- The number of a view has too many digits to be one. -/
  | codeTooLarge (digits : String)
  | codeOutOfRange (code : Int) (greatest : Nat)
  | unknownFormat (name : String) (available : List String)
  deriving DecidableEq, Repr

namespace OptionFault

/-- A fault of an option in words. -/
def message : OptionFault → String
  | .unknownLetter letter letters =>
      s!"unknown mode letter '{letter}' in \"{letters}\""
  | .codeTooLarge digits =>
      s!"legacy mode {digits}: number too large to fit in target type"
  | .codeOutOfRange code greatest =>
      s!"legacy mode {code} is outside 0..={greatest}"
  | .unknownFormat name available =>
      let names := ", ".intercalate available
      s!"unknown output format '{name}' (available: {names})"

end OptionFault

/-- Why a tree cannot be written. -/
inductive FormatFault where
  | notFound (name : String)
  | failed (reason : String)
  deriving DecidableEq, Repr

namespace FormatFault

/-- A fault of writing in words. -/
def message : FormatFault → String
  | .notFound name => s!"Format '{name}' not found"
  | .failed reason => s!"Serialization error: {reason}"

end FormatFault

/-- Why a run is given up. -/
inductive Fault where
  | input (fault : InputFault)
  | option (fault : OptionFault)
  /-- The tree is nested more deeply than the limit. -/
  | tooDeep (limit : Nat)
  | format (fault : FormatFault)
  deriving DecidableEq, Repr

namespace Fault

/-- A fault in words. -/
def message : Fault → String
  | .input fault => s!"invalid input: {fault.message}"
  | .option fault => s!"invalid option: {fault.message}"
  | .tooDeep limit => s!"parse tree exceeds the maximum depth of {limit}"
  | .format fault => fault.message

end Fault

end LojbanTree
