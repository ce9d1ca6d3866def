import LojbanTree.Proofs.Settings.Sections
import Mathlib.Data.List.Basic

/-!
# Layers of settings

A layer chooses some of the settings and says nothing about the others.
`Settings.load_eq` says what settings any number of files and any overrides come
to: each layer replaces exactly what it chooses, setting by setting.
-/

namespace LojbanTree

/-- What a layer chooses. -/
structure Choices where
  mode? : Option String
  limit? : Option Nat
  format? : Option String
  deriving DecidableEq, Repr

namespace Choices

/-- The choices of a layer that chooses nothing. -/
def nothing : Choices := ⟨none, none, none⟩

/-- The choices of a layer that chooses everything. -/
def ofSettings (settings : Settings) : Choices :=
  ⟨some settings.mode, some settings.limit, some settings.format⟩

/-- The choices of two layers, of which the upper one counts more. -/
def atop (upper lower : Choices) : Choices where
  mode? := upper.mode?.or lower.mode?
  limit? := upper.limit?.or lower.limit?
  format? := upper.format?.or lower.format?

/--
Entries that make the choices, each at most once, and make nothing else of the
two sections than tables.
-/
def WrittenIn (choices : Choices) (entries : List (String × Setting)) : Prop :=
  (∃ fields ∈ Setting.allFieldsOf? "postprocess" entries,
    Setting.Chooses Setting.toText? "mode" fields choices.mode? ∧
      Setting.Chooses Setting.toCount? "max_depth" fields choices.limit?) ∧
  ∃ fields ∈ Setting.allFieldsOf? "render" entries,
    Setting.Chooses Setting.toText? "format" fields choices.format?

instance (choices : Choices) (entries : List (String × Setting)) :
    Decidable (choices.WrittenIn entries) :=
  inferInstanceAs (Decidable (_ ∧ _))

/-- Choices that are read from a table, whose sections are tables themselves. -/
structure StandIn (choices : Choices) (root : Setting) : Prop where
  postprocess : ∃ entries, Setting.sectionOf "postprocess" root = .table entries
  render : ∃ entries, Setting.sectionOf "render" root = .table entries
  mode : Setting.readField Setting.toText? "mode"
    (Setting.sectionOf "postprocess" root) =
    choices.mode?
  limit : Setting.readField Setting.toCount? "max_depth"
    (Setting.sectionOf "postprocess" root) =
    choices.limit?
  format : Setting.readField Setting.toText? "format"
    (Setting.sectionOf "render" root) =
    choices.format?

theorem standIn_empty : nothing.StandIn (.table []) where
  postprocess := ⟨[], rfl⟩
  render := ⟨[], rfl⟩
  mode := rfl
  limit := rfl
  format := rfl

/-- Merging entries puts what they choose over what stood there. -/
theorem StandIn.merge {lower upper : Choices} {root : Setting}
    {entries : List (String × Setting)} (standing : lower.StandIn root)
    (written : upper.WrittenIn entries) :
    (upper.atop lower).StandIn (Setting.merge entries root) := by
  obtain ⟨⟨postprocess, givenPostprocess, mode, limit⟩, render, givenRender,
    format⟩ := written
  have postprocessed := Setting.sectionOf_merge givenPostprocess root
  have rendered := Setting.sectionOf_merge givenRender root
  constructor
  case postprocess =>
    obtain ⟨before, isTable⟩ := standing.postprocess
    rw [postprocessed, isTable]
    exact Setting.exists_assignAll_eq_table postprocess before
  case render =>
    obtain ⟨before, isTable⟩ := standing.render
    rw [rendered, isTable]
    exact Setting.exists_assignAll_eq_table render before
  case mode =>
    rw [postprocessed, Setting.readField_assignAll (fun _ => rfl) mode,
      standing.mode, atop]
  case limit =>
    rw [postprocessed, Setting.readField_assignAll (fun _ => rfl) limit,
      standing.limit, atop]
  case format =>
    rw [rendered, Setting.readField_assignAll (fun _ => rfl) format,
      standing.format, atop]

/-- Merging one content after another puts each over those before it. -/
theorem StandIn.foldl_merge {choices : List Choices}
    {contents : List (List (String × Setting))}
    (written : List.Forall₂ WrittenIn choices contents) {lower : Choices}
    {root : Setting} (standing : lower.StandIn root) :
    (choices.foldl (fun lower upper => upper.atop lower) lower).StandIn
      (contents.foldl
        (fun target entries => Setting.merge entries target) root) := by
  induction written generalizing lower root with
  | nil => exact standing
  | cons first others inOthers => exact inOthers (standing.merge first)

end Choices

/--
A layer that is a file in which the choices are made, or no file if none are.
-/
def Layer.Holds (choices : Choices) (layer : Layer) : Prop :=
  ∃ entries, layer.fileEntries = .ok entries ∧ choices.WrittenIn entries

instance (choices : Choices) (layer : Layer) : Decidable (layer.Holds choices) :=
  match read : layer.fileEntries with
  | .ok entries =>
      decidable_of_iff (choices.WrittenIn entries) (by simp [Layer.Holds, read])
  | .error _ => isFalse (by simp [Layer.Holds, read])

namespace Settings

/-- The built-in settings. -/
def standard : Settings := ⟨"", 512, "auto"⟩

/-- Settings with everything replaced that a layer chooses. -/
def choose (settings : Settings) (choices : Choices) : Settings where
  mode := choices.mode?.getD settings.mode
  limit := choices.limit?.getD settings.limit
  format := choices.format?.getD settings.format

theorem atop_ofSettings (choices : Choices) (settings : Settings) :
    choices.atop (.ofSettings settings) =
      .ofSettings (settings.choose choices) := by
  simp [Choices.atop, Choices.ofSettings, choose]

/-- Choices that are laid over settings replace them one after another. -/
theorem foldl_atop_ofSettings (choices : List Choices) (settings : Settings) :
    choices.foldl (fun lower upper => upper.atop lower) (.ofSettings settings) =
      .ofSettings (choices.foldl choose settings) := by
  induction choices generalizing settings with
  | nil => rfl
  | cons upper others inOthers =>
      rw [List.foldl_cons, atop_ofSettings, inOthers, List.foldl_cons]

theorem writtenIn_builtIn : (Choices.ofSettings standard).WrittenIn builtIn := by
  decide +kernel

/-- A table that stands for settings is read as these settings. -/
theorem ofTable_eq_ok {settings : Settings} {root : Setting}
    (standing : (Choices.ofSettings settings).StandIn root) :
    ofTable root = .ok settings := by
  obtain ⟨entries, postprocess⟩ := standing.postprocess
  obtain ⟨others, render⟩ := standing.render
  rw [ofTable, read_eq_ok postprocess standing.mode,
    read_eq_ok postprocess standing.limit, read_eq_ok render standing.format]
  rfl

/-! ## Files and overrides -/

/-- A layer that overrides one place. -/
def overriding (entry : String × Setting) : Layer := .override entry.1 entry.2

theorem mapM_eq_ok_replicate {fault item result : Type}
    {step : item → Except fault result} {items : List item} {made : result}
    (each : ∀ item ∈ items, step item = .ok made) :
    items.mapM step = .ok (List.replicate items.length made) := by
  induction items with
  | nil => rfl
  | cons item rest inRest =>
      obtain ⟨first, others⟩ := List.forall_mem_cons.mp each
      rw [List.mapM_cons, first, inRest others]
      rfl

theorem foldl_merge_replicate_nil (count : Nat) (target : Setting) :
    (List.replicate count []).foldl
      (fun target entries => Setting.merge entries target) target =
      target := by
  induction count with
  | zero => rfl
  | succ count inCount =>
      rw [List.replicate_succ, List.foldl_cons, Setting.merge_nil, inCount]

/-- What is written to places one after another is merged. -/
theorem exists_mapM_override?_eq_ok {overrides : List (String × Setting)}
    (spelled : ∀ entry ∈ overrides, (Setting.Place.ofText? entry.1).isSome) :
    ∃ writes, (overrides.map overriding).mapM Layer.override? = .ok writes ∧
      ∀ target,
        (writes.filterMap id).foldl
            (fun target (place, setting) =>
              Setting.writeAt place setting target) target =
          Setting.merge overrides target := by
  induction overrides with
  | nil => exact ⟨[], rfl, fun _ => rfl⟩
  | cons entry rest inRest =>
      obtain ⟨isSpelled, others⟩ := List.forall_mem_cons.mp spelled
      obtain ⟨place, isPlace⟩ := Option.isSome_iff_exists.mp isSpelled
      obtain ⟨writes, taken, merges⟩ := inRest others
      have first : (overriding entry).override? = .ok (some (place, entry.2)) := by
        rw [overriding, Layer.override?, isPlace]
      refine ⟨some (place, entry.2) :: writes, ?_, ?_⟩
      · rw [List.map_cons, List.mapM_cons, first, taken]
        rfl
      · intro target
        rw [Setting.merge_cons, isPlace, Option.getD_some, ← merges]
        rfl

/--
Files are merged in their order over the built-in entries, and overrides over all
files.  An override has no content to be merged, and a file has nothing to be
written.
-/
theorem merged_append {files : List Layer}
    {contents : List (List (String × Setting))}
    {overrides : List (String × Setting)}
    (areFiles : ∀ layer ∈ files, layer.override? = .ok none)
    (contained : files.mapM Layer.fileEntries = .ok contents)
    (spelled : ∀ entry ∈ overrides, (Setting.Place.ofText? entry.1).isSome) :
    merged (files ++ overrides.map overriding) =
      .ok (Setting.merge overrides
        (contents.foldl (fun target entries => Setting.merge entries target)
          (Setting.merge builtIn (.table [])))) := by
  obtain ⟨writes, taken, merges⟩ := exists_mapM_override?_eq_ok spelled
  have noWrites := mapM_eq_ok_replicate areFiles
  have noContents :
      ∀ layer ∈ overrides.map overriding, layer.fileEntries = .ok [] := by
    rintro layer isOverride
    obtain ⟨entry, _, rfl⟩ := List.mem_map.mp isOverride
    rfl
  have dropped :
      ((List.replicate files.length none ++ writes).filterMap id) =
        writes.filterMap id := by
    simp
  rw [merged, List.mapM_append, List.mapM_append, noWrites, taken, contained,
    mapM_eq_ok_replicate noContents]
  change Except.ok
    (((_ ++ writes).filterMap id).foldl _ ((contents ++ _).foldl _ _)) = _
  rw [dropped, merges, List.foldl_append, foldl_merge_replicate_nil]

/-- Contents in which the choices of the layers are made. -/
theorem exists_contents {files : List Layer} {choices : List Choices}
    (held : List.Forall₂ Layer.Holds choices files) :
    ∃ contents, files.mapM Layer.fileEntries = .ok contents ∧
      List.Forall₂ Choices.WrittenIn choices contents := by
  induction held with
  | nil => exact ⟨[], rfl, .nil⟩
  | cons first others inOthers =>
      obtain ⟨entries, read, written⟩ := first
      obtain ⟨contents, contained, inContents⟩ := inOthers
      refine ⟨entries :: contents, ?_, .cons written inContents⟩
      rw [List.mapM_cons, read, contained]
      rfl

/--
Every file replaces what it chooses of the settings before it, and the overrides
replace what they choose of the settings that all files come to.
-/
theorem load_eq {files : List Layer} {choices : List Choices} {flags : Choices}
    {overrides : List (String × Setting)}
    (held : List.Forall₂ Layer.Holds choices files)
    (areFiles : ∀ layer ∈ files, layer.override? = .ok none)
    (spelled : ∀ entry ∈ overrides, (Setting.Place.ofText? entry.1).isSome)
    (written : flags.WrittenIn overrides) :
    load (files ++ overrides.map overriding) =
      .ok ((choices.foldl choose standard).choose flags) := by
  obtain ⟨contents, contained, inContents⟩ := exists_contents held
  have atFirst := Choices.standIn_empty.merge writtenIn_builtIn
  have standing := (atFirst.foldl_merge inContents).merge written
  rw [load, merged_append areFiles contained spelled]
  apply ofTable_eq_ok
  rw [← atop_ofSettings, ← foldl_atop_ofSettings]
  exact standing

end Settings

end LojbanTree
