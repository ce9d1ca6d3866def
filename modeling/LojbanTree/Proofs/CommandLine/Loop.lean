import LojbanTree.CommandLine.Program
import LojbanTree.Proofs.CommandLine.TextLines
import LojbanTree.Proofs.Processor.Failures
import LojbanTree.Proofs.Rendering.Printable

/-!
# One tree per line

The program can take one tree per line of its standard input.  Each line that is
not blank is answered by itself: by one line on the output if it is processed,
and by one line of complaint if it fails.  No answer can be taken for two,
because neither what a processor writes nor a complaint has a control character.
-/

namespace LojbanTree

namespace CommandLine

/-! ## Answers -/

/-- What is written for a line, unless it is blank or fails. -/
def result? (processor : Processor) (line : String) : Option String :=
  if Text.isBlankText line then none
  else
    match (processor.process (.text line)).outcome with
    | .ok output => some output
    | .error _ => none

/-- What is said of a line that fails. -/
def complaint? (processor : Processor) (line : String) : Option String :=
  if Text.isBlankText line then none
  else
    match (processor.process (.text line)).outcome with
    | .ok _ => none
    | .error fault => some (report fault)

/-- What is written for lines. -/
def results (processor : Processor) (lines : List String) : List String :=
  lines.filterMap (result? processor)

/-- What is said of the lines that fail. -/
def complaints (processor : Processor) (lines : List String) : List String :=
  lines.filterMap (complaint? processor)

/-- The answers to lines, each on a line of its own. -/
def answers (processor : Processor) (lines : List String) : Ending :=
  ⟨0, framed (results processor lines), framed (complaints processor lines)⟩

section

variable (processor : Processor)

/-- A line has a result if it is not blank and is processed. -/
theorem result?_eq_some_iff (line output : String) :
    result? processor line = some output ↔
      Text.isBlankText line = false ∧
        (processor.process (.text line)).outcome = .ok output := by
  unfold result?
  cases Text.isBlankText line <;>
    cases (processor.process (.text line)).outcome <;> simp

/-- A line is complained about if it is not blank and fails. -/
theorem complaint?_eq_some_iff (line complaint : String) :
    complaint? processor line = some complaint ↔
      Text.isBlankText line = false ∧
        ∃ fault, (processor.process (.text line)).outcome = .error fault ∧
          complaint = report fault := by
  unfold complaint?
  cases Text.isBlankText line <;>
    cases (processor.process (.text line)).outcome <;> simp [eq_comm]

theorem results_append (lines others : List String) :
    results processor (lines ++ others) =
      results processor lines ++ results processor others :=
  List.filterMap_append

theorem complaints_append (lines others : List String) :
    complaints processor (lines ++ others) =
      complaints processor lines ++ complaints processor others :=
  List.filterMap_append

theorem answers_blank {line : String} (blank : Text.isBlankText line = true)
    (rest : List String) :
    answers processor (line :: rest) = answers processor rest := by
  simp [answers, results, complaints, result?, complaint?, blank]

theorem answers_written {line output : String}
    (inhabited : Text.isBlankText line = false)
    (written : (processor.process (.text line)).outcome = .ok output)
    (rest : List String) :
    answers processor (line :: rest) =
      (answers processor rest).behind (output ++ "\n") "" := by
  simp [answers, results, complaints, result?, complaint?, inhabited, written,
    Ending.behind]

theorem answers_failed {line : String} {fault : Fault}
    (inhabited : Text.isBlankText line = false)
    (failed : (processor.process (.text line)).outcome = .error fault)
    (rest : List String) :
    answers processor (line :: rest) =
      (answers processor rest).behind "" (report fault ++ "\n") := by
  simp [answers, results, complaints, result?, complaint?, inhabited, failed,
    Ending.behind]

/-- Lines that are decoded are answered one after another. -/
theorem processLines_eq_answers (lines : List String) {encoded : List (List UInt8)}
    (decoded : encoded.map decode? = lines.map some) :
    processLines processor encoded = answers processor lines := by
  induction lines generalizing encoded with
  | nil =>
      rw [List.map_nil, List.map_eq_nil_iff] at decoded
      subst decoded
      rfl
  | cons line rest inRest =>
      rw [List.map_cons, List.map_eq_cons_iff] at decoded
      obtain ⟨bytes, others, rfl, isLine, areRest⟩ := decoded
      rw [processLines, isLine]
      cases blank : Text.isBlankText line with
      | true =>
          rw [answers_blank processor blank, ← inRest areRest]
          simp [blank]
      | false =>
          cases ends : (processor.process (.text line)).outcome with
          | ok output =>
              rw [answers_written processor blank ends, ← inRest areRest]
              simp [blank, ends]
          | error fault =>
              rw [answers_failed processor blank ends, ← inRest areRest]
              simp [blank, ends]

end

/-! ## The processor of a call -/

theorem exists_configured_of_settings {settings : Settings} {processor : Processor}
    (made : settings.processor = .ok processor) :
    ∃ view limit, Processor.Configured view limit processor := by
  unfold Settings.processor Processor.ofMode at made
  cases taken : Mode.ofText settings.mode with
  | error fault => simp [taken, Except.mapError, bind, Except.bind] at made
  | ok mode =>
      cases viewed : mode.view with
      | error fault =>
          simp [taken, viewed, Except.mapError, Except.map, bind,
            Except.bind] at made
      | ok view =>
          have choice :
              ((Processor.ofView view).withLimit settings.limit).withFormat
                  settings.format =
                .ok processor := by
            simpa [taken, viewed, Except.mapError, Except.map, bind,
              Except.bind] using made
          exact ⟨view, settings.limit,
            .formatted (.limited settings.limit .fresh) choice⟩

/--
Every processor that a call of the program makes is a view after some choices.
-/
theorem exists_configured {arguments : Arguments} {surroundings : Surroundings}
    {processor : Processor} {looping : Bool}
    (built : CommandLine.processor arguments surroundings =
      .ok (processor, looping)) :
    ∃ view limit, Processor.Configured view limit processor := by
  unfold CommandLine.processor at built
  split at built
  case isTrue => simp [bind, Except.bind] at built
  case isFalse =>
    cases loaded : Settings.load (layers arguments surroundings) with
    | error fault => simp [loaded, Except.mapError, bind, Except.bind] at built
    | ok settings =>
        cases made : Settings.processor
            { settings with mode := withoutLoop settings.mode } with
        | error fault =>
            simp [loaded, made, Except.mapError, bind, Except.bind] at built
        | ok configured =>
            have both :
                configured = processor ∧
                  (asksForLoop settings.mode || arguments.loop) = looping := by
              simpa [loaded, made, Except.mapError, bind, Except.bind] using built
            exact exists_configured_of_settings (both.1 ▸ made)

/-! ## Complaints -/

theorem isPrintable_failure (failure : Json.Failure) :
    Text.IsPrintable failure.message.toList := by
  have cause : Text.IsPrintable failure.cause.message.toList := by
    cases failure.cause <;> decide
  unfold Json.Failure.message
  apply Text.isPrintable_append _ (Text.isPrintable_toString failure.column)
  apply Text.isPrintable_append _ (by decide)
  apply Text.isPrintable_append _ (Text.isPrintable_toString failure.line)
  exact Text.isPrintable_append cause (by decide)

/-- A complaint about a line is a line. -/
theorem isPrintable_report {limit : Nat} {text : String} {fault : Fault}
    (failed : (Tree.ofText limit text).outcome = .error fault) :
    Text.IsPrintable (report fault).toList := by
  apply Text.isPrintable_append (by decide)
  rcases Tree.fault_of_ofText failed with rfl | ⟨kind, rfl⟩ | ⟨failure, rfl⟩
  · exact Text.isPrintable_append (by decide) (Text.isPrintable_toString limit)
  · have name : Text.IsPrintable kind.name.toList := by
      cases kind <;> decide
    exact Text.isPrintable_append (by decide)
      (Text.isPrintable_append (by decide) name)
  · exact Text.isPrintable_append (by decide) (isPrintable_failure failure)

/-! ## The answers of a call -/

section

variable {view : View} {limit : Nat} {processor : Processor}

theorem exists_of_mem_results {lines : List String} {output : String}
    (member : output ∈ results processor lines) :
    ∃ line ∈ lines, (processor.process (.text line)).outcome = .ok output := by
  obtain ⟨line, isLine, found⟩ := List.mem_filterMap.mp member
  obtain ⟨_, written⟩ := (result?_eq_some_iff processor line output).mp found
  exact ⟨line, isLine, written⟩

theorem exists_of_mem_complaints {lines : List String} {complaint : String}
    (member : complaint ∈ complaints processor lines) :
    ∃ line ∈ lines, ∃ fault,
      (processor.process (.text line)).outcome = .error fault ∧
        complaint = report fault := by
  obtain ⟨line, isLine, found⟩ := List.mem_filterMap.mp member
  obtain ⟨_, fault, failed, said⟩ :=
    (complaint?_eq_some_iff processor line complaint).mp found
  exact ⟨line, isLine, fault, failed, said⟩

/--
Results are read back from the output, because none of them is broken over lines.
-/
theorem textLines_results (configured : Processor.Configured view limit processor)
    (lines : List String) :
    textLines (framed (results processor lines)) = results processor lines := by
  apply textLines_framed
  intro output member
  obtain ⟨line, _, written⟩ := exists_of_mem_results member
  have printable := Processor.isPrintable_of_process configured written
  exact ⟨printable.not_mem (by decide), printable.not_mem (by decide)⟩

/-- A line fails to be processed only if it fails to be read. -/
theorem outcome_ofText_of_process
    (configured : Processor.Configured view limit processor)
    {line : String} {fault : Fault}
    (failed : (processor.process (.text line)).outcome = .error fault) :
    (Tree.ofText limit line).outcome = .error fault := by
  have sound := Processor.IsSound.of_configured configured
  have fits (tree : Tree)
      (read : ((Input.text line).toTree limit).outcome = .ok tree) :
      tree.nesting ≤ limit :=
    Tree.nesting_le_of_ofText read
  rw [sound.outcome_process_error_iff,
    sound.outcome_reduce_error_iff fits] at failed
  exact failed

theorem textLines_complaints
    (configured : Processor.Configured view limit processor)
    (lines : List String) :
    textLines (framed (complaints processor lines)) =
      complaints processor lines := by
  apply textLines_framed
  intro complaint member
  obtain ⟨line, _, fault, failed, rfl⟩ := exists_of_mem_complaints member
  have printable :=
    isPrintable_report (outcome_ofText_of_process configured failed)
  exact ⟨printable.not_mem (by decide), printable.not_mem (by decide)⟩

end

/-- What the program can see when something else is on its standard input. -/
def Surroundings.withInput (surroundings : Surroundings) (input : ByteArray) :
    Surroundings :=
  { surroundings with standardInput := input }

section

variable {words : List String} {surroundings : Surroundings}
  {arguments : Arguments}
variable {processor : Processor}

/-- A call that takes one tree per line answers the lines of its input. -/
theorem run_eq_answers (asked : read words = .ok (.run arguments))
    (noList : arguments.listOptions = false)
    (built : CommandLine.processor arguments surroundings = .ok (processor, true))
    {input : ByteArray} {text : String}
    (decoded : String.fromUTF8? input = some text) :
    run words (surroundings.withInput input) =
      answers processor (textLines text) := by
  have same :
      CommandLine.processor arguments (surroundings.withInput input) =
        .ok (processor, true) :=
    built
  have answered : processLines processor (lines input.toList) = _ :=
    processLines_eq_answers processor (textLines text) (decode_lines decoded)
  simp only [run, asked, perform, noList, same]
  exact answered

theorem results_eq_nil_iff (lines : List String) :
    results processor lines = [] ↔ ∀ line ∈ lines, result? processor line = none :=
  List.filterMap_eq_nil_iff

/-- The results stand in the order of the lines that have one. -/
theorem getElem?_results (lines : List String) (place : Nat) :
    (results processor lines)[place]? =
      ((lines.filter fun line => (result? processor line).isSome)[place]?).bind
        (result? processor) := by
  induction lines generalizing place with
  | nil => simp [results]
  | cons line rest inRest =>
      cases found : result? processor line with
      | none => simpa [results, found] using inRest place
      | some output =>
          cases place with
          | zero => simp [results, found]
          | succ place => simpa [results, found] using inRest place

/--
A call that takes one tree per line ends well on every text.  Its output has one
line for each line of the text that is processed, in their order, and its
complaints have one line for each line that fails.  No output of its processor
has a control character, whatever it is given, so that each is a line by itself:
the line at a place of the output is the one for the line at that place among
those that are processed.  If lines that give no output are replaced by others,
then the output stays the same, and only the complaints about them are replaced.
-/
theorem run_answers_lines (asked : read words = .ok (.run arguments))
    (noList : arguments.listOptions = false)
    (built : CommandLine.processor arguments surroundings =
      .ok (processor, true)) :
    (∀ (input : ByteArray) (text : String), String.fromUTF8? input = some text →
      run words (surroundings.withInput input) =
        ⟨0, framed (results processor (textLines text)),
          framed (complaints processor (textLines text))⟩) ∧
    (∀ (input : Input) (output : String),
      (processor.process input).outcome = .ok output →
      Text.IsPrintable output.toList) ∧
    (∀ (input : ByteArray) (text : String), String.fromUTF8? input = some text →
      textLines (run words (surroundings.withInput input)).errors =
          complaints processor (textLines text) ∧
        ∀ place : Nat,
          (textLines (run words (surroundings.withInput input)).output)[place]? =
            (((textLines text).filter fun line =>
              (result? processor line).isSome)[place]?).bind
              (result? processor)) ∧
    (∀ (input input' : ByteArray) (text text' : String)
      (before bad bad' after : List String), String.fromUTF8? input = some text →
      String.fromUTF8? input' = some text' →
      textLines text = before ++ bad ++ after →
        textLines text' = before ++ bad' ++ after →
      (∀ line ∈ bad ++ bad', result? processor line = none) →
        (run words (surroundings.withInput input')).output =
            (run words (surroundings.withInput input)).output ∧
          (run words (surroundings.withInput input')).errors =
            framed (complaints processor before ++ complaints processor bad' ++
              complaints processor after)) := by
  obtain ⟨view, limit, configured⟩ := exists_configured built
  have answered {input : ByteArray} {text : String}
      (decoded : String.fromUTF8? input = some text) :
      run words (surroundings.withInput input) =
        answers processor (textLines text) :=
    run_eq_answers asked noList built decoded
  refine ⟨?_, ?_, ?_, ?_⟩
  · intro input text decoded
    exact answered decoded
  · intro input output written
    exact Processor.isPrintable_of_process configured written
  · intro input text decoded
    rw [answered decoded]
    constructor
    · exact textLines_complaints configured _
    · intro place
      rw [← getElem?_results]
      exact congrArg (·[place]?) (textLines_results configured _)
  · intro input input' text text' before bad bad' after decoded decoded'
      parts parts' fails
    obtain ⟨noResult, noResult'⟩ := List.forall_mem_append.mp fails
    rw [← results_eq_nil_iff] at noResult noResult'
    rw [answered decoded, answered decoded', parts, parts']
    constructor
    · simp [answers, results_append, noResult, noResult']
    · simp [answers, complaints_append]

end

/-- A system without files. -/
def nowhere : Surroundings := ⟨fun _ => .missing, .empty⟩

/-- Arguments that ask for one tree per line and for nothing else. -/
def oneTreePerLine : Arguments := { Arguments.empty with loop := true }

/-- A tree and a blank line. -/
def firstLines : List String :=
  ["[\"text\",[\"gismu\",\"klama\"],[\"KOhA\",\"mi\"]]", ""]

/-- A tree that is cut off. -/
def cutLine : String := "[\"KOhA\""

/-- A word with a line feed in it. -/
def lastLine : String := "[\"cmevla\",\"la\\nlan\"]"

/--
All lines, with a return at the end of the first one and no end behind the last.
-/
def mixedLines : String :=
  "[\"text\",[\"gismu\",\"klama\"],[\"KOhA\",\"mi\"]]\r\n\n" ++
    "[\"KOhA\"\n[\"cmevla\",\"la\\nlan\"]"

/-- The lines without the tree that is cut off. -/
def goodLines : String :=
  "[\"text\",[\"gismu\",\"klama\"],[\"KOhA\",\"mi\"]]\n\n" ++
    "[\"cmevla\",\"la\\nlan\"]\n"

/-- What is said of the tree that is cut off. -/
def complaint : String :=
  "Postprocessing error: invalid input: " ++
    "EOF while parsing a list at line 1 column 7"

/--
Two lines are written, one complaint is made, and the bad line does not matter for
them.
-/
theorem run_answers_lines_mixedLines :
    read ["--loop"] = .ok (.run oneTreePerLine) ∧
      oneTreePerLine.listOptions = false ∧
      CommandLine.processor oneTreePerLine nowhere =
        .ok (.ofView Processor.wordsOnly, true) ∧
      run ["--loop"] (nowhere.withInput mixedLines.toByteArray) =
        ⟨0, "(klama mi)\nla\\nlan\n", complaint ++ "\n"⟩ ∧
      (run ["--loop"] (nowhere.withInput goodLines.toByteArray)).output =
        (run ["--loop"] (nowhere.withInput mixedLines.toByteArray)).output := by
  have asked : read ["--loop"] = .ok (.run oneTreePerLine) := by cbv
  have noList : oneTreePerLine.listOptions = false := rfl
  have built :
      CommandLine.processor oneTreePerLine nowhere =
        .ok (.ofView Processor.wordsOnly, true) := by
    with_unfolding_all rfl
  obtain ⟨answered, _, _, isolated⟩ := run_answers_lines asked noList built
  have decoded := fromUTF8?_toByteArray mixedLines
  have decoded' := fromUTF8?_toByteArray goodLines
  have parts : textLines mixedLines = firstLines ++ [cutLine] ++ [lastLine] := by
    decide +kernel
  have parts' : textLines goodLines = firstLines ++ [] ++ [lastLine] := by
    decide +kernel
  refine ⟨asked, noList, built, ?_, ?_⟩
  · have written :
        results (.ofView Processor.wordsOnly)
          (firstLines ++ [cutLine] ++ [lastLine]) =
          ["(klama mi)", "la\\nlan"] := by
      decide +kernel
    have complained :
        complaints (.ofView Processor.wordsOnly)
          (firstLines ++ [cutLine] ++ [lastLine]) =
          [complaint] := by
      decide +kernel
    rw [answered _ _ decoded, parts, written, complained]
    rfl
  · have bad :
        ∀ line ∈ [cutLine] ++ [],
          result? (.ofView Processor.wordsOnly) line = none := by
      decide +kernel
    exact (isolated _ _ _ _ _ _ _ _ decoded decoded' parts parts' bad).1

end CommandLine

end LojbanTree
