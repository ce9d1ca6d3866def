/-!
# Nesting of JSON text

How deep the brackets and braces of a text are nested can be told without
reading it as JSON, and it can be told of every text.  Brackets inside strings
do not count, and a closing bracket that nothing opened is passed over.
-/

namespace LojbanTree

namespace Json

/-- Where a scan stands with respect to strings. -/
inductive Quoting where
  | outside
  | inside
  /-- Inside a string, right after a backslash. -/
  | escaped
  deriving DecidableEq, Repr

/--
The greatest number of brackets that are open at once in a text, when `depth`
are open at its start and `peak` is the greatest number before it.
-/
def peakFrom (peak depth : Nat) : Quoting → List Char → Nat
  | _, [] => peak
  | .escaped, _ :: rest => peakFrom peak depth .inside rest
  | .inside, char :: rest =>
      if char = '\\' then peakFrom peak depth .escaped rest
      else if char = '"' then peakFrom peak depth .outside rest
      else peakFrom peak depth .inside rest
  | .outside, char :: rest =>
      if char = '"' then peakFrom peak depth .inside rest
      else if char = '[' ∨ char = '\x7b' then
        peakFrom (max peak (depth + 1)) (depth + 1) .outside rest
      else if char = ']' ∨ char = '\x7d' then
        peakFrom peak (depth - 1) .outside rest
      else peakFrom peak depth .outside rest

/-- The greatest number of brackets that are open at once in a text. -/
def peak (text : String) : Nat := peakFrom 0 0 .outside text.toList

end Json

end LojbanTree
