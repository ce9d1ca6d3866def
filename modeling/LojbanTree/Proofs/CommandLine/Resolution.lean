import LojbanTree.Proofs.CommandLine.Loop
import LojbanTree.Proofs.Settings.Layering
import LojbanTree.Proofs.View.ModeText

/-!
# What a call is made of

A call takes each of its settings from the highest layer that chooses it: the
command line, the file that it names, the file of the current directory, and
the built-in settings.  `CommandLine.processor_of_layered` says so, and that the
letter for one tree per line counts in the mode that this comes to and nowhere
else.
-/

namespace LojbanTree

namespace CommandLine

/-! ## Layers of a call -/

/-- What the command line chooses. -/
def Arguments.choices (arguments : Arguments) : Choices :=
  ⟨arguments.mode?, arguments.limit?, arguments.format?⟩

/-- The places that the command line overrides. -/
def overrides (arguments : Arguments) : List (String × Setting) :=
  (arguments.mode?.map fun mode => ("postprocess.mode", .text mode)).toList ++
    (arguments.format?.map fun format => ("render.format", .text format)).toList ++
    (arguments.limit?.map fun limit =>
      ("postprocess.max_depth", .integer limit)).toList

/-- The files of a call, from the lowest to the highest. -/
def files (arguments : Arguments) (surroundings : Surroundings) : List Layer :=
  surroundings.fileLayer false localSettings ::
    (arguments.config?.map (surroundings.fileLayer true)).toList

/--
The files of a call hold what is chosen in them, and a limit on the command
line is one that a setting can hold.
-/
structure Layered (arguments : Arguments) (surroundings : Surroundings)
    (home config : Choices) : Prop where
  /-- The file of the current directory, which may be missing. -/
  home : (surroundings.fileLayer false localSettings).Holds home
  /-- The file that the command line names. -/
  named : ∀ name, arguments.config? = some name →
    (surroundings.fileLayer true name).Holds config
  /-- Nothing is chosen in a file that is not named. -/
  unnamed : arguments.config? = none → config = .nothing
  limit : ∀ limit, arguments.limit? = some limit → limit ≤ greatestSetting

/-- The settings of a call, each from the highest layer that chooses it. -/
def resolved (arguments : Arguments) (home config : Choices) : Settings where
  mode := arguments.mode?.getD (config.mode?.getD (home.mode?.getD ""))
  limit := arguments.limit?.getD (config.limit?.getD (home.limit?.getD 512))
  format := arguments.format?.getD (config.format?.getD (home.format?.getD "auto"))

section

variable {arguments : Arguments} {surroundings : Surroundings}

/-- The layers of a call are its files and the overrides above them. -/
theorem layers_eq :
    layers arguments surroundings =
      files arguments surroundings ++
        (overrides arguments).map Settings.overriding := by
  simp [layers, files, overrides, Settings.overriding, Option.toList_map,
    Function.comp_def]

theorem override?_fileLayer (required : Bool) (name : String) :
    (surroundings.fileLayer required name).override? = .ok none := by
  unfold Surroundings.fileLayer
  cases surroundings.settingsFile name with
  | none => rfl
  | some content =>
      cases found : String.fromUTF8? content <;> simp [found, Layer.override?]

theorem ofText?_mode :
    Setting.Place.ofText? "postprocess.mode" =
      some ⟨"postprocess", [.name "mode"]⟩ := by
  decide +kernel

theorem ofText?_format :
    Setting.Place.ofText? "render.format" = some ⟨"render", [.name "format"]⟩ := by
  decide +kernel

theorem ofText?_limit :
    Setting.Place.ofText? "postprocess.max_depth" =
      some ⟨"postprocess", [.name "max_depth"]⟩ := by
  decide +kernel

theorem isSome_ofText?_of_mem_overrides (arguments : Arguments) :
    ∀ entry ∈ overrides arguments, (Setting.Place.ofText? entry.1).isSome := by
  intro entry isOverride
  simp only [overrides, List.mem_append, Option.mem_toList, Option.map_eq_some_iff,
    or_assoc] at isOverride
  rcases isOverride with ⟨mode, _, rfl⟩ | ⟨format, _, rfl⟩ | ⟨limit, _, rfl⟩
  · rw [ofText?_mode, Option.isSome_some]
  · rw [ofText?_format, Option.isSome_some]
  · rw [ofText?_limit, Option.isSome_some]

/-- An override of a field of a section gives that field to that section alone. -/
theorem fieldsOf?_of_ofText? {spelling first name : String}
    (spelled : Setting.Place.ofText? spelling = some ⟨first, [.name name]⟩)
    (part : String) (setting : Setting) :
    Setting.fieldsOf? part (spelling, setting) =
      some (if first.toLower = part then [(name, setting)] else []) := by
  rw [Setting.fieldsOf?, spelled]
  by_cases inPart : first.toLower = part <;> simp [inPart]

/-- The overrides make the choices of the command line. -/
theorem writtenIn_overrides (arguments : Arguments) :
    arguments.choices.WrittenIn (overrides arguments) := by
  obtain ⟨path?, mode?, format?, config?, limit?, loop, listOptions⟩ := arguments
  have lower :
      "postprocess".toLower = "postprocess" ∧ "render".toLower = "render" ∧
        "mode".toLower = "mode" ∧ "max_depth".toLower = "max_depth" ∧
        "format".toLower = "format" := by
    decide +kernel
  have ofMode := fieldsOf?_of_ofText? ofText?_mode
  have ofFormat := fieldsOf?_of_ofText? ofText?_format
  have ofLimit := fieldsOf?_of_ofText? ofText?_limit
  let postprocess : List (String × Setting) :=
    (mode?.map fun mode => ("mode", .text mode)).toList ++
      (limit?.map fun limit => ("max_depth", .integer limit)).toList
  let render : List (String × Setting) :=
    (format?.map fun format => ("format", .text format)).toList
  refine ⟨⟨postprocess, ?_, ?_, ?_⟩, render, ?_, ?_⟩
  · cases mode? <;> cases format? <;> cases limit? <;>
      simp [postprocess, overrides, Setting.allFieldsOf?, ofMode, ofLimit,
        ofFormat, lower]
  · cases mode? <;> cases limit? <;>
      simp [postprocess, Setting.Chooses, Setting.givenUnder, lower,
        Arguments.choices, Setting.toText?]
  · cases mode? <;> cases limit? <;>
      simp [postprocess, Setting.Chooses, Setting.givenUnder, lower,
        Arguments.choices, Setting.toCount?]
  · cases mode? <;> cases format? <;> cases limit? <;>
      simp [render, overrides, Setting.allFieldsOf?, ofMode, ofLimit, ofFormat,
        lower]
  · cases format? <;>
      simp [render, Setting.Chooses, Setting.givenUnder, lower, Arguments.choices,
        Setting.toText?]

/-- The layers of a call are loaded to the settings that it resolves to. -/
theorem load_layers {home config : Choices}
    (layered : Layered arguments surroundings home config) :
    Settings.load (layers arguments surroundings) =
      .ok (resolved arguments home config) := by
  have areFiles :
      ∀ layer ∈ files arguments surroundings, layer.override? = .ok none := by
    intro layer isFile
    rcases List.mem_cons.mp isFile with rfl | isNamed
    · exact override?_fileLayer false localSettings
    · obtain ⟨name, _, rfl⟩ :=
        Option.map_eq_some_iff.mp (Option.mem_toList.mp isNamed)
      exact override?_fileLayer true name
  have spelled := isSome_ofText?_of_mem_overrides arguments
  have written := writtenIn_overrides arguments
  rw [layers_eq]
  cases given : arguments.config? with
  | none =>
      have held :
          List.Forall₂ Layer.Holds [home] (files arguments surroundings) := by
        rw [files, given]
        exact .cons layered.home .nil
      rw [Settings.load_eq held areFiles spelled written, layered.unnamed given]
      rfl
  | some name =>
      have held :
          List.Forall₂ Layer.Holds [home, config]
            (files arguments surroundings) := by
        rw [files, given]
        exact .cons layered.home (.cons (layered.named name given) .nil)
      rw [Settings.load_eq held areFiles spelled written]
      rfl

end

/-! ## The processor of a call -/

/--
The part of a mode that is decoded, which is all but the letter for one tree per
line.
-/
def decodedPart (mode : String) : String :=
  String.ofList (mode.toList.filter (· ≠ 'L'))

/--
The processor that settings describe, and whether it takes one tree per line,
which it does if the mode says so or if it is asked to.
-/
def described (settings : Settings) (loop : Bool) :
    Except Fault (Processor × Bool) := do
  let view ← Mode.decoded (decodedPart settings.mode)
  if settings.format ∈ ["auto", "json", "text"] then
    .ok (⟨⟨view, settings.limit⟩, .standard, settings.format, settings.limit⟩,
      decide ('L' ∈ settings.mode.toList ∨ loop = true))
  else
    .error (.option (.unknownFormat settings.format ["json", "text", "auto"]))

theorem withoutLoop_eq (mode : String) : withoutLoop mode = decodedPart mode := by
  rw [withoutLoop, decodedPart]
  congr 2
  funext char
  exact Bool.eq_iff_iff.mpr (by simp [loopLetter])

theorem asksForLoop_or_eq (mode : String) (loop : Bool) :
    (asksForLoop mode || loop) = decide ('L' ∈ mode.toList ∨ loop = true) := by
  simp [asksForLoop, loopLetter]

/-- The names that a fresh processor accepts. -/
theorem withFormat_eq (view : View) (limit : Nat) (name : String) :
    ((Processor.ofView view).withLimit limit).withFormat name =
      if name ∈ ["auto", "json", "text"] then
        .ok ⟨⟨view, limit⟩, .standard, name, limit⟩
      else
        .error (.option (.unknownFormat name ["json", "text", "auto"])) := by
  have formats : Registry.standard.formats = [.json, .text] := rfl
  have known :
      (name = Processor.automatic ∨ Registry.standard.has name = true) ↔
        name ∈ ["auto", "json", "text"] := by
    rw [Registry.has, Registry.get?, List.find?_isSome, formats]
    simp [Processor.automatic, Format.json, Format.text, @eq_comm _ _ name]
  rw [Processor.withFormat]
  exact if_congr known rfl rfl

/-- Settings make the processor of the view that their mode describes. -/
theorem processor_of_settings (settings : Settings) :
    settings.processor = (Mode.decoded settings.mode).bind fun view =>
      ((Processor.ofView view).withLimit settings.limit).withFormat
        settings.format := by
  rw [Settings.processor, Mode.decoded]
  cases Mode.ofText settings.mode with
  | error fault => rfl
  | ok mode =>
      change (Processor.ofMode mode).bind _ =
        (mode.view.mapError Fault.option).bind _
      rw [Processor.ofMode]
      cases mode.view <;> rfl

/-- The settings describe the processor that is made without the letter. -/
theorem described_eq (settings : Settings) (loop : Bool) :
    described settings loop =
      (Settings.processor { settings with mode := withoutLoop settings.mode }).map
        (·, asksForLoop settings.mode || loop) := by
  rw [described, processor_of_settings, withoutLoop_eq, asksForLoop_or_eq]
  cases Mode.decoded (decodedPart settings.mode) with
  | error fault => rfl
  | ok view =>
      by_cases known : settings.format ∈ ["auto", "json", "text"]
      · simp only [bind, Except.bind, withFormat_eq, if_pos known, Except.map]
      · simp only [bind, Except.bind, withFormat_eq, if_neg known, Except.map]

theorem processor_of_load {arguments : Arguments} {surroundings : Surroundings}
    {settings : Settings}
    (within : ∀ limit, arguments.limit? = some limit → limit ≤ greatestSetting)
    (loaded : Settings.load (layers arguments surroundings) = .ok settings) :
    processor arguments surroundings =
      (described settings arguments.loop).mapError Fault.message := by
  have inRange : arguments.limit?.any (greatestSetting < ·) = false := by
    cases limited : arguments.limit? with
    | none => rfl
    | some limit => simpa using within limit limited
  rw [processor, inRange, if_neg Bool.false_ne_true, loaded, described_eq]
  change Except.bind (Except.mapError _ (Settings.processor _)) _ = _
  cases Settings.processor { settings with mode := withoutLoop settings.mode } <;>
    rfl

/-- One tree per line is taken if the mode says so or if it is asked for. -/
theorem looping_iff_of_described {settings : Settings} {loop looping : Bool}
    {made : Processor} (isMade : described settings loop = .ok (made, looping)) :
    looping = true ↔ 'L' ∈ settings.mode.toList ∨ loop = true := by
  rw [described_eq] at isMade
  cases isProcessor : Settings.processor
      { settings with mode := withoutLoop settings.mode } with
  | error fault => cases isProcessor ▸ isMade
  | ok processor =>
      rw [isProcessor] at isMade
      cases isMade
      rw [asksForLoop_or_eq]
      exact decide_eq_true_iff

/-- A call that makes a processor gives it each line of its input, or all of it. -/
theorem perform_of_processor {arguments : Arguments} {surroundings : Surroundings}
    {made : Processor} {looping : Bool} (noList : arguments.listOptions = false)
    (isMade : processor arguments surroundings = .ok (made, looping)) :
    perform arguments surroundings =
      if looping then processLines made (lines surroundings.standardInput.toList)
      else
        match source arguments surroundings with
        | .error message => .failure message
        | .ok text => processOne made text := by
  rw [perform, if_neg (by simp [noList]), isMade]
  cases looping <;> rfl

/-- A call that makes no processor says why. -/
theorem perform_of_error {arguments : Arguments} {surroundings : Surroundings}
    {message : String} (noList : arguments.listOptions = false)
    (isUnmade : processor arguments surroundings = .error message) :
    perform arguments surroundings = .failure ("Error: " ++ message) := by
  rw [perform, if_neg (by simp [noList]), isUnmade]

/-- Without a path, the text on standard input is the one that is processed. -/
theorem source_of_standardInput {arguments : Arguments}
    {surroundings : Surroundings}
    {text : String} (noPath : filePath? arguments = none)
    (decoded : String.fromUTF8? surroundings.standardInput = some text) :
    source arguments surroundings = .ok text := by
  simp only [source, noPath, decoded]

/-! ## Writing the letter elsewhere -/

/--
Settings that differ in where and how often the letter for one tree per line is
written in their modes, and in nothing else.
-/
structure SameButLetter (other settings : Settings) : Prop where
  mode : decodedPart other.mode = decodedPart settings.mode
  limit : other.limit = settings.limit
  format : other.format = settings.format

/-- Calls that take their input from the same place and find the same there. -/
structure SameInput (arguments' : Arguments) (surroundings' : Surroundings)
    (arguments : Arguments) (surroundings : Surroundings) : Prop where
  list : arguments'.listOptions = arguments.listOptions
  path : arguments'.path? = arguments.path?
  look : ∀ path, arguments.path? = some path →
    surroundings'.look path = surroundings.look path
  standard : surroundings'.standardInput = surroundings.standardInput

/-- Where the letter stands does not matter for the processor. -/
theorem described_congr {settings other : Settings}
    (same : SameButLetter other settings) (loop loop' : Bool) :
    (described other loop').map Prod.fst =
      (described settings loop).map Prod.fst := by
  rw [described, described, same.mode, same.limit, same.format]
  cases Mode.decoded (decodedPart settings.mode) with
  | error fault => rfl
  | ok view =>
      by_cases known : settings.format ∈ ["auto", "json", "text"]
      · simp only [bind, Except.bind, if_pos known, Except.map]
      · simp only [bind, Except.bind, if_neg known, Except.map]

theorem described_congr_of_loops {settings other : Settings}
    (same : SameButLetter other settings) {loop loop' : Bool}
    (loops : ('L' ∈ other.mode.toList ∨ loop' = true) ↔
      ('L' ∈ settings.mode.toList ∨ loop = true)) :
    described other loop' = described settings loop := by
  rw [described, described, same.mode, same.limit, same.format,
    decide_eq_decide.mpr loops]

/-- Calls with the same processor and the same input end in the same way. -/
theorem perform_congr {arguments arguments' : Arguments}
    {surroundings surroundings' : Surroundings}
    (sameProcessor : processor arguments' surroundings' =
      processor arguments surroundings)
    (same : SameInput arguments' surroundings' arguments surroundings) :
    perform arguments' surroundings' = perform arguments surroundings := by
  have sameSource :
      source arguments' surroundings' = source arguments surroundings := by
    unfold source filePath?
    rw [same.path, same.standard]
    cases isFile : arguments.path?.filter (· != "-") with
    | none => rfl
    | some path =>
        have found := same.look path (Option.filter_eq_some_iff.mp isFile).1
        simp only [found]
  rw [perform, perform, same.list, sameProcessor, same.standard, sameSource]

/--
A call takes each setting from the highest layer that chooses it.  It takes one
tree per line if the mode that this comes to has an `L` in it or if the flag is
set, and decodes what is left of that mode without every `L`.  If it takes one
tree per line then each line of standard input is processed by itself, and if not
then all of its input is taken for one tree.  Calls that differ in where and how
often the letter is written make the same processor, and they end in the same way
unless only one of them takes one tree per line.
-/
theorem processor_of_layered {arguments : Arguments} {surroundings : Surroundings}
    {home config : Choices}
    (layered : Layered arguments surroundings home config) :
    let settings := resolved arguments home config
    Settings.load (layers arguments surroundings) = .ok settings ∧
      processor arguments surroundings =
        (described settings arguments.loop).mapError Fault.message ∧
      (∀ made looping, processor arguments surroundings = .ok (made, looping) →
        (looping = true ↔ 'L' ∈ settings.mode.toList ∨ arguments.loop = true) ∧
          (arguments.listOptions = false →
            perform arguments surroundings =
              if looping then
                processLines made (lines surroundings.standardInput.toList)
              else
                match source arguments surroundings with
                | .error message => .failure message
                | .ok text => processOne made text)) ∧
      (∀ message, processor arguments surroundings = .error message →
        arguments.listOptions = false →
          perform arguments surroundings = .failure ("Error: " ++ message)) ∧
      ∀ arguments' surroundings' home' config',
        Layered arguments' surroundings' home' config' →
        let other := resolved arguments' home' config'
        SameButLetter other settings →
        (processor arguments' surroundings').map Prod.fst =
            (processor arguments surroundings).map Prod.fst ∧
          (('L' ∈ other.mode.toList ∨ arguments'.loop = true ↔
              'L' ∈ settings.mode.toList ∨ arguments.loop = true) →
            SameInput arguments' surroundings' arguments surroundings →
            perform arguments' surroundings' =
              perform arguments surroundings) := by
  intro settings
  have loaded := load_layers layered
  have made := processor_of_load layered.limit loaded
  refine ⟨loaded, made, ?_, ?_, ?_⟩
  · intro processor looping isMade
    constructor
    · rw [made] at isMade
      cases isDescribed : described settings arguments.loop with
      | error fault => cases isDescribed ▸ isMade
      | ok described =>
          obtain rfl := Except.ok.inj (isDescribed ▸ isMade)
          exact looping_iff_of_described isDescribed
    · intro noList
      exact perform_of_processor noList isMade
  · intro message isUnmade noList
    exact perform_of_error noList isUnmade
  · intro arguments' surroundings' home' config' layered' other same
    have made' := processor_of_load layered'.limit (load_layers layered')
    constructor
    · have outside (described : Except Fault (Processor × Bool)) :
          (described.mapError Fault.message).map Prod.fst =
            (described.map Prod.fst).mapError Fault.message := by
        cases described <;> rfl
      rw [made, made', outside, outside, described_congr same]
    · intro loops sameInput
      have sameProcessor :
          processor arguments' surroundings' =
            processor arguments surroundings := by
        rw [made, made', described_congr_of_loops same loops]
      exact perform_congr sameProcessor sameInput

/-- Two trees, each on a line of its own. -/
def twoTrees : String := "[\"KOhA\",\"mi\"]\n[\"VAU\"]\n"

/--
A system with a file of settings in its directory, and another file that writes
the letter into a number.
-/
def twoFiles : Surroundings where
  look path :=
    if path = "camxes-postproc.toml" then
      .file "[postprocess]\nmode = \"LLC\"\nmax_depth = 7\n".toByteArray
    else if path = "more.toml" then
      .file "postprocess.mode = \"1L2\"\nrender.format = \"text\"\n".toByteArray
    else .missing
  standardInput := twoTrees.toByteArray

/--
Arguments that name the other file and choose a format, and may choose a mode.
-/
def namingMore (mode? : Option String) : Arguments :=
  ⟨none, mode?, some "json", some "more", none, false, false⟩

theorem layered_namingMore (mode? : Option String) :
    Layered (namingMore mode?) twoFiles ⟨some "LLC", some 7, none⟩
      ⟨some "1L2", none, some "text"⟩ := by
  have home :
      twoFiles.fileLayer false localSettings =
        .file false (some "[postprocess]\nmode = \"LLC\"\nmax_depth = 7\n") := by
    simp [Surroundings.fileLayer, Surroundings.settingsFile, twoFiles,
      localSettings, fromUTF8?_toByteArray]
  have more :
      twoFiles.fileLayer true "more" =
        .file true
          (some "postprocess.mode = \"1L2\"\nrender.format = \"text\"\n") := by
    simp [Surroundings.fileLayer, Surroundings.settingsFile, twoFiles,
      fromUTF8?_toByteArray]
  constructor
  case home =>
    rw [home]
    decide +kernel
  case named =>
    intro name isNamed
    obtain rfl : "more" = name := Option.some.inj isNamed
    rw [more]
    decide +kernel
  case unnamed =>
    intro isUnnamed
    cases isUnnamed
  case limit =>
    intro limit isLimit
    cases isLimit

/-- The view of the number 12. -/
def numbered : View := ⟨false, true, true, true, true, true, false, false⟩

/-- The processor of that view under the limit of the directory. -/
def asNumbered : Processor := ⟨⟨numbered, 7⟩, .standard, "json", 7⟩

theorem described_eq_asNumbered {mode : String} {looping : Bool}
    (viewed : Mode.decoded (decodedPart mode) = .ok numbered)
    (loops : decide ('L' ∈ mode.toList ∨ false = true) = looping) :
    described ⟨mode, 7, "json"⟩ false = .ok (asNumbered, looping) := by
  rw [described, viewed, ← loops]
  rfl

/-- What is said of two trees that are taken for one. -/
def trailing : String :=
  "Postprocessing error: invalid input: trailing characters at line 2 column 1"

/--
The mode of the named file counts, and what is left of it is a number; the limit
comes from the directory and the format from the command line.  Both trees are
answered because of the letter in that mode.  Without it they are taken for one.
-/
theorem processor_of_layered_splitNumber :
    read ["--config=more", "--format=json"] = .ok (.run (namingMore none)) ∧
      Settings.load (layers (namingMore none) twoFiles) = .ok ⟨"1L2", 7, "json"⟩ ∧
      processor (namingMore none) twoFiles =
        .ok (⟨⟨numbered, 7⟩, .standard, "json", 7⟩, true) ∧
      run ["--config=more", "--format=json"] twoFiles =
        ⟨0, "\"KOhA:mi\"\n\"VAU\"\n", ""⟩ ∧
      perform (namingMore (some "LL12")) twoFiles =
        perform (namingMore none) twoFiles ∧
      perform (namingMore (some "12")) twoFiles = ⟨1, "", trailing ++ "\n"⟩ := by
  have asked :
      read ["--config=more", "--format=json"] = .ok (.run (namingMore none)) := by
    cbv
  have decoded : String.fromUTF8? twoFiles.standardInput = some twoTrees :=
    fromUTF8?_toByteArray twoTrees
  have noList (mode? : Option String) : (namingMore mode?).listOptions = false :=
    rfl
  obtain ⟨loaded, made, performed, _, elsewhere⟩ :=
    processor_of_layered (layered_namingMore none)
  have isNumber : described ⟨"1L2", 7, "json"⟩ false = .ok (asNumbered, true) :=
    described_eq_asNumbered (by decide +kernel) (by decide +kernel)
  have isMade : processor (namingMore none) twoFiles = .ok (asNumbered, true) :=
    made.trans (congrArg (Except.mapError Fault.message) isNumber)
  have same : SameButLetter ⟨"LL12", 7, "json"⟩ ⟨"1L2", 7, "json"⟩ :=
    ⟨by decide +kernel, rfl, rfl⟩
  have ending := (elsewhere _ _ _ _ (layered_namingMore (some "LL12")) same).2
    (by decide +kernel) ⟨rfl, rfl, fun _ _ => rfl, rfl⟩
  refine ⟨asked, loaded, isMade, ?_, ending, ?_⟩
  · have answered :
        answers asNumbered (textLines twoTrees) =
          ⟨0, "\"KOhA:mi\"\n\"VAU\"\n", ""⟩ := by
      decide +kernel
    rw [run, asked]
    change perform (namingMore none) twoFiles = _
    rw [(performed _ _ isMade).2 (noList none), if_pos rfl, ← answered]
    exact processLines_eq_answers asNumbered _ (decode_lines decoded)
  · have isNumber' : described ⟨"12", 7, "json"⟩ false = .ok (asNumbered, false) :=
      described_eq_asNumbered (by decide +kernel) (by decide +kernel)
    obtain ⟨_, made', performed', _⟩ :=
      processor_of_layered (layered_namingMore (some "12"))
    have isMade' :
        processor (namingMore (some "12")) twoFiles = .ok (asNumbered, false) :=
      made'.trans (congrArg (Except.mapError Fault.message) isNumber')
    rw [(performed' _ _ isMade').2 (noList _), if_neg Bool.false_ne_true,
      source_of_standardInput rfl decoded]
    decide +kernel

end CommandLine

end LojbanTree
