import LojbanTree.CommandLine.Arguments
import LojbanTree.CommandLine.Lines
import LojbanTree.CommandLine.Usage
import LojbanTree.Settings.Basic
import LojbanTree.Text.Padding

/-!
# The program

The program is a function of its arguments, the files that it can see and its
standard input.  It answers with an exit code and with what it writes to its
two outputs.  The lines of the log, which it also sends to its error output from
the level of warnings on, are not part of the answer: what is logged stands in
the journals of the runs.

Its settings are layered: the built-in ones, those of the current directory,
those of a file that is asked for, and those on the command line.  The letter
`L` of a mode is not part of the view: it asks for one tree per input line.
-/

namespace LojbanTree

namespace CommandLine

/-- What is found under a path. -/
inductive Found where
  | missing
  | directory
  | file (content : ByteArray)

/-- What the program can see of the system that it runs on. -/
structure Surroundings where
  /-- What is found under a path. -/
  look : String → Found
  standardInput : ByteArray

/-- How a run of the program ends. -/
structure Ending where
  code : Nat
  output : String
  /-- What the program says of itself, without the lines of the log. -/
  errors : String
  deriving DecidableEq, Repr

namespace Ending

/-- The end of a run that did what it was asked for. -/
def success (output : String) : Ending := ⟨0, output, ""⟩

/-- The end of a run that could not do it. -/
def failure (errors : String) : Ending := ⟨1, "", errors ++ "\n"⟩

/-- The end of a run whose arguments cannot be followed. -/
def misuse (fault : UsageFault) : Ending :=
  ⟨2, "",
    s!"error: {fault.message}\n\n{usageLine}\n\n" ++
      "For more information, try '--help'.\n"⟩

/-- Write something in front of an ending. -/
def behind (output errors : String) (ending : Ending) : Ending :=
  ⟨ending.code, output ++ ending.output, errors ++ ending.errors⟩

end Ending

/-- What is said of bytes that encode no text. -/
def undecodable : String := "stream did not contain valid UTF-8"

/-- The file with the settings of the current directory. -/
def localSettings : String := "camxes-postproc.toml"

/--
The file of settings that a name stands for: the file of that name, or else
the one with the usual ending behind it.
-/
def Surroundings.settingsFile (surroundings : Surroundings) (name : String) :
    Option ByteArray :=
  match surroundings.look name with
  | .file content => some content
  | .missing | .directory =>
      match surroundings.look (name ++ ".toml") with
      | .file content => some content
      | .missing | .directory => none

/-- The layer of a file of settings. -/
def Surroundings.fileLayer (surroundings : Surroundings) (required : Bool)
    (name : String) : Layer :=
  match surroundings.settingsFile name with
  | none => .file required none
  | some content =>
      match String.fromUTF8? content with
      | some text => .file required (some text)
      | none => .undecodable

/-- The greatest limit that a setting can hold. -/
def greatestSetting : Nat := Bounds.signed

/-- All layers over the built-in settings. -/
def layers (arguments : Arguments) (surroundings : Surroundings) : List Layer :=
  [surroundings.fileLayer false localSettings] ++
    (arguments.config?.map (surroundings.fileLayer true)).toList ++
    (arguments.mode?.map fun mode =>
      .override "postprocess.mode" (.text mode)).toList ++
    (arguments.format?.map fun format =>
      .override "render.format" (.text format)).toList ++
    (arguments.limit?.map fun limit =>
      .override "postprocess.max_depth" (.integer limit)).toList

/-- The letter that asks for one tree per line. -/
def loopLetter : Char := 'L'

/-- Whether a mode asks for one tree per line. -/
def asksForLoop (mode : String) : Bool := mode.toList.contains loopLetter

/-- A mode without the letter that asks for one tree per line. -/
def withoutLoop (mode : String) : String :=
  String.ofList (mode.toList.filter (· != loopLetter))

/-- The processor that is asked for, and whether it takes one tree per line. -/
def processor (arguments : Arguments) (surroundings : Surroundings) :
    Except String (Processor × Bool) := do
  if arguments.limit?.any (greatestSetting < ·) then
    .error "out of range integral type conversion attempted"
  let settings ← (Settings.load (layers arguments surroundings)).mapError
    SettingsFault.message
  let decoded : Settings := { settings with mode := withoutLoop settings.mode }
  let processor ← decoded.processor.mapError Fault.message
  .ok (processor, asksForLoop settings.mode || arguments.loop)

/-- The path of the input, unless it is standard input. -/
def filePath? (arguments : Arguments) : Option String :=
  arguments.path?.filter (· != "-")

/-- The text that is to be processed when it is a single one. -/
def source (arguments : Arguments) (surroundings : Surroundings) :
    Except String String :=
  match filePath? arguments with
  | some path =>
      match surroundings.look path with
      | .missing =>
          .error "Error reading file: No such file or directory (os error 2)"
      | .directory => .error "Error reading file: Is a directory (os error 21)"
      | .file content =>
          match String.fromUTF8? content with
          | some text => .ok text
          | none => .error ("Error reading file: " ++ undecodable)
  | none =>
      match String.fromUTF8? surroundings.standardInput with
      | some text => .ok text
      | none => .error ("Error reading stdin: " ++ undecodable)

/-- How a fault of processing is reported. -/
def report (fault : Fault) : String := "Postprocessing error: " ++ fault.message

/-- Process a single text. -/
def processOne (processor : Processor) (text : String) : Ending :=
  match (processor.process (.text text)).outcome with
  | .ok output => .success (output ++ "\n")
  | .error fault => .failure (report fault)

/-- Process lines one after another; a line that fails is reported and left out. -/
def processLines (processor : Processor) : List (List UInt8) → Ending
  | [] => .success ""
  | bytes :: rest =>
      match decode? bytes with
      | none => .failure ("Error reading stdin: " ++ undecodable)
      | some line =>
          if Text.isBlankText line then
            processLines processor rest
          else
            match (processor.process (.text line)).outcome with
            | .ok output =>
                (processLines processor rest).behind (output ++ "\n") ""
            | .error fault =>
                (processLines processor rest).behind "" (report fault ++ "\n")

/-- Do what arguments ask for. -/
def perform (arguments : Arguments) (surroundings : Surroundings) : Ending :=
  if arguments.listOptions then
    .success lettersText
  else
    match processor arguments surroundings with
    | .error message => .failure ("Error: " ++ message)
    | .ok (processor, true) =>
        processLines processor (lines surroundings.standardInput.toList)
    | .ok (processor, false) =>
        match source arguments surroundings with
        | .error message => .failure message
        | .ok text => processOne processor text

/-- Whether a run depends on standard input. -/
def readsInput (words : List String) (surroundings : Surroundings) : Bool :=
  match read words with
  | .ok (.run arguments) =>
      !arguments.listOptions &&
        match processor arguments surroundings with
        | .ok (_, looping) => looping || (filePath? arguments).isNone
        | .error _ => false
  | _ => false

/-- Run the program. -/
def run (words : List String) (surroundings : Surroundings) : Ending :=
  match read words with
  | .error fault => .misuse fault
  | .ok .help => .success helpText
  | .ok .version => .success versionText
  | .ok (.run arguments) => perform arguments surroundings

end CommandLine

end LojbanTree
