/-!
# Lines of bytes

A line ends with a line feed, and one carriage return in front of it belongs
to the end of the line.  Bytes behind the last line feed are a line too.
-/

namespace LojbanTree

namespace CommandLine

/-- The byte that ends a line. -/
def lineFeed : UInt8 := 10

/-- The byte that may stand before the end of a line. -/
def carriageReturn : UInt8 := 13

/-- A line whose bytes are given backwards, without its end. -/
def finishLine (backwards : List UInt8) : List UInt8 :=
  match backwards with
  | last :: rest =>
      if last = carriageReturn then rest.reverse else backwards.reverse
  | [] => []

/--
The lines of bytes, the first of which has begun with the bytes given backwards.
-/
def linesFrom (backwards : List UInt8) : List UInt8 → List (List UInt8)
  | [] => if backwards.isEmpty then [] else [backwards.reverse]
  | byte :: rest =>
      if byte = lineFeed then finishLine backwards :: linesFrom [] rest
      else linesFrom (byte :: backwards) rest

/-- The lines of bytes. -/
def lines (bytes : List UInt8) : List (List UInt8) := linesFrom [] bytes

/-- The text that bytes encode, if they encode one. -/
def decode? (bytes : List UInt8) : Option String :=
  String.fromUTF8? ⟨bytes.toArray⟩

end CommandLine

end LojbanTree
