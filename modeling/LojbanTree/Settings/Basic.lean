import LojbanTree.Processor
import LojbanTree.Settings.Merge
import LojbanTree.Toml.Reader

/-!
# The settings of a processor

Settings come in layers over the built-in ones: files, which may be optional,
and overrides of single places.  Every override counts more than every file;
among files and among overrides the later one counts more.  A layer says
nothing about the settings that it does not mention.
-/

namespace LojbanTree

/-- The settings that a processor is made from. -/
structure Settings where
  /-- The text of the mode. -/
  mode : String
  /-- The limit on nesting. -/
  limit : Nat
  /-- The name of the format. -/
  format : String
  deriving DecidableEq, Repr

/-- A layer over the settings that come before it. -/
inductive Layer where
  /-- The content of a file, or nothing if there is no such file. -/
  | file (required : Bool) (content? : Option String)
  /-- A file whose content is not a text. -/
  | undecodable
  /-- A setting for the place that a text spells. -/
  | override (place : String) (setting : Setting)

/-- Why layers do not make settings. -/
inductive SettingsFault where
  | missingFile
  | malformedFile
  | malformedPlace (place : String)
  | unfit (place : String)
  deriving DecidableEq, Repr

namespace SettingsFault

/-- A fault of the settings in words. -/
def message : SettingsFault → String
  | .missingFile => "configuration file not found"
  | .malformedFile => "configuration file is not valid TOML"
  | .malformedPlace place => s!"invalid configuration key '{place}'"
  | .unfit place => s!"missing or invalid value for configuration key '{place}'"

end SettingsFault

namespace Layer

/-- The entries that a layer holds if it is a file. -/
def fileEntries (layer : Layer) : Except SettingsFault (List (String × Setting)) :=
  match layer with
  | .file _ (some content) =>
      match Toml.read? content with
      | some entries => .ok entries
      | none => .error .malformedFile
  | .file required none => if required then .error .missingFile else .ok []
  | .undecodable => .error .malformedFile
  | .override _ _ => .ok []

/-- The place and the setting of a layer if it is an override. -/
def override? (layer : Layer) :
    Except SettingsFault (Option (Setting.Place × Setting)) :=
  match layer with
  | .override place setting =>
      match Setting.Place.ofText? place with
      | some place => .ok (some (place, setting))
      | none => .error (.malformedPlace place)
  | .file _ _ | .undecodable => .ok none

end Layer

namespace Settings

/-- The built-in settings as a table. -/
def builtIn : List (String × Setting) :=
  [ ("postprocess", .table
      [ ("mode", .text ""), ("max_depth", .integer Processor.standardLimit) ]),
    ("render", .table [ ("format", .text Processor.automatic) ]) ]

/-- All layers merged over the built-in settings. -/
def merged (layers : List Layer) : Except SettingsFault Setting := do
  let overrides ← layers.mapM Layer.override?
  let files ← layers.mapM Layer.fileEntries
  let base := Setting.merge builtIn (.table [])
  let withFiles :=
    files.foldl (fun target entries => Setting.merge entries target) base
  .ok <| (overrides.filterMap id).foldl
    (fun target (place, setting) => Setting.writeAt place setting target) withFiles

/-- A field of a section, read in the given way. -/
def read {found : Type} (root : Setting) (part : String) (position : Nat)
    (name : String) (convert : Setting → Option found) :
    Except SettingsFault found :=
  match ((root.entries.lookup part).bind
      (Setting.field? name position)).bind convert with
  | some found => .ok found
  | none => .error (.unfit (part ++ "." ++ name))

/-- The settings in a table. -/
def ofTable (root : Setting) : Except SettingsFault Settings := do
  let mode ← read root "postprocess" 0 "mode" Setting.toText?
  let limit ← read root "postprocess" 1 "max_depth" Setting.toCount?
  let format ← read root "render" 0 "format" Setting.toText?
  .ok ⟨mode, limit, format⟩

/-- The settings that layers make. -/
def load (layers : List Layer) : Except SettingsFault Settings := do
  ofTable (← merged layers)

/-- The processor of settings. -/
def processor (settings : Settings) : Except Fault Processor := do
  let mode ← (Mode.ofText settings.mode).mapError .option
  let processor ← Processor.ofMode mode
  (processor.withLimit settings.limit).withFormat settings.format

end Settings

end LojbanTree
