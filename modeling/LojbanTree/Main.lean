import LojbanTree.CommandLine.Program

/-!
# The executable

Files are read as far as the arguments name them, and standard input only if
it is needed; everything else is left to `CommandLine.run`.
-/

namespace LojbanTree

namespace CommandLine

/-- The paths that may be looked up for the given words. -/
def pathsFor (words : List String) : List String :=
  match read words with
  | .ok (.run arguments) =>
      let settings := localSettings :: arguments.config?.toList
      settings ++ settings.map (· ++ ".toml") ++ arguments.path?.toList
  | _ => []

/-- What is found under a path at the moment. -/
def lookUp (path : String) : IO Found := do
  try
    return .file (← IO.FS.readBinFile path)
  catch
    | .inappropriateType .. => return .directory
    | _ => return .missing

/-- Everything that standard input still holds. -/
partial def readAll (stream : IO.FS.Stream) (read : ByteArray) : IO ByteArray := do
  let chunk ← stream.read 65536
  if chunk.isEmpty then return read else readAll stream (read ++ chunk)

/-- Run the program on the files and the input of the system. -/
def execute (words : List String) : IO UInt32 := do
  let found ← (pathsFor words).mapM fun path => do return (path, ← lookUp path)
  let before : Surroundings :=
    ⟨fun path => (found.lookup path).getD .missing, .empty⟩
  let input ←
    if readsInput words before then readAll (← IO.getStdin) .empty else pure .empty
  let ending := run words { before with standardInput := input }
  (← IO.getStdout).putStr ending.output
  (← IO.getStderr).putStr ending.errors
  return ending.code.toUInt32

end CommandLine

end LojbanTree

/-- Run the program in its surroundings. -/
def main (words : List String) : IO UInt32 := LojbanTree.CommandLine.execute words
