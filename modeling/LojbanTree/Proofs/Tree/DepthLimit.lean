import Mathlib.Control.Monad.Basic
import LojbanTree.Proofs.Json.Scanning
import LojbanTree.Tree.Encoding

/-!
# Two guards of one depth limit

A text is refused if its brackets and braces are nested too deeply, and a
decoded value is refused where one of its arrays lies too deep.  A value whose
arrays have a number of levels is refused if and only if that number is above
the limit by more than one, and a text is refused whenever its value is.
Only the braces of objects make a text deeper than its value.
-/

namespace LojbanTree

/-! ## Runs under a limit -/

/--
Whether a run finds something as long as the arrays that it reaches are within
a limit, and is refused otherwise.
-/
structure Run.IsLimited {found : Type} (limit reach : Nat) (run : Run found) :
    Prop where
  accepted : reach ≤ limit + 1 → ∃ value, run.outcome = .ok value
  refused : limit + 1 < reach → run.outcome = .error (.tooDeep limit)

namespace Run.IsLimited

variable {first second : Type} {limit reach : Nat}

theorem of_ok {run : Run first} {value : first} (fits : reach ≤ limit + 1)
    (ends : run.outcome = .ok value) : run.IsLimited limit reach := by
  constructor
  · intro _
    exact ⟨value, ends⟩
  · intro deep
    exact absurd fits (Nat.not_le.mpr deep)

theorem of_fail {run : Run first} (deep : limit + 1 < reach)
    (ends : run.outcome = .error (.tooDeep limit)) :
    run.IsLimited limit reach := by
  constructor
  · intro fits
    exact absurd fits (Nat.not_le.mpr deep)
  · intro _
    exact ends

/-- A run under a limit fails for nothing but its reach. -/
theorem of_error {run : Run first} {fault : Fault}
    (limited : run.IsLimited limit reach) (failed : run.outcome = .error fault) :
    fault = .tooDeep limit ∧ limit + 1 < reach := by
  rcases Nat.lt_or_ge (limit + 1) reach with deep | fits
  · rw [limited.refused deep, Except.error.injEq] at failed
    exact ⟨failed.symm, deep⟩
  · obtain ⟨value, accepted⟩ := limited.accepted fits
    simp [accepted] at failed

theorem map {run : Run first} (limited : run.IsLimited limit reach)
    (form : first → second) : (run.map form).IsLimited limit reach := by
  constructor
  · intro fits
    obtain ⟨value, ends⟩ := limited.accepted fits
    exact ⟨form value, by simp [ends, Except.map]⟩
  · intro deep
    simp [limited.refused deep, Except.map]

/-- The second of two runs matters only if the first one is not refused. -/
theorem andThen {reach' : Nat} {run : Run first} {next : first → Run second}
    (limited : run.IsLimited limit reach)
    (later : ∀ value, (next value).IsLimited limit reach') :
    (run.andThen next).IsLimited limit (max reach reach') := by
  constructor
  · intro fits
    obtain ⟨fitsFirst, fitsSecond⟩ := Nat.max_le.mp fits
    obtain ⟨value, ends⟩ := limited.accepted fitsFirst
    obtain ⟨result, endsLater⟩ := (later value).accepted fitsSecond
    exact ⟨result, by rw [outcome_andThen, ends]; exact endsLater⟩
  · intro deep
    rw [outcome_andThen]
    rcases Nat.lt_or_ge (limit + 1) reach with deepFirst | fitsFirst
    · rw [limited.refused deepFirst]
    · obtain ⟨value, ends⟩ := limited.accepted fitsFirst
      have deepSecond : limit + 1 < reach' := by omega
      rw [ends]
      exact (later value).refused deepSecond

end Run.IsLimited

namespace Tree

/-! ## The guard of values -/

/-- The node that an array is read as; a string in front of it is the label. -/
def arrayNode : List Json → List Tree → Tree
  | .string name :: _, trees => .labeled name trees.tail
  | _, trees => .unlabeled trees

/--
An array is checked first, whatever its first element is.  A label is a string,
and so it can be read as an element that is never too deep.
-/
theorem ofElement_array (limit depth : Nat) (elements : List Json) :
    ofElement limit depth (.array elements) =
      (checkDepth limit depth).andThen fun _ =>
        (ofElements limit (depth + 1) elements).map (arrayNode elements) := by
  match elements with
  | .string name :: rest =>
      simp [ofElement, ofElements, Run.map_map, arrayNode]
  | [] | .null :: rest | .boolean _ :: rest | .number _ :: rest | .array _ :: rest
  | .object _ :: rest =>
      simp only [ofElement, Run.bind_eq, Run.functor_map_eq]
      rfl

mutual

/-- A value is refused if and only if one of its arrays lies beyond the limit. -/
theorem isLimited_ofElement (limit : Nat) :
    (value : Json) → (depth : Nat) → depth ≤ limit + 1 →
      (ofElement limit depth value).IsLimited limit (depth + value.levels)
  | .string _, depth, fits | .null, depth, fits | .boolean _, depth, fits
  | .number _, depth, fits | .object _, depth, fits => .of_ok fits rfl
  | .array elements, depth, fits => by
      rw [ofElement_array, checkDepth, Json.levels, Nat.add_comm _ 1,
        ← Nat.add_assoc]
      split
      case isTrue deep =>
        exact .of_fail (by omega) rfl
      case isFalse shallow =>
        rw [Nat.not_lt] at shallow
        have inside := isLimited_ofElements limit elements (depth + 1)
          (Nat.succ_le_succ shallow)
        exact inside.map (arrayNode elements)

/-- The same for several values at one depth. -/
theorem isLimited_ofElements (limit : Nat) :
    (elements : List Json) → (depth : Nat) → depth ≤ limit + 1 →
      (ofElements limit depth elements).IsLimited limit
        (depth + Json.levelsAll elements)
  | [], depth, fits => .of_ok fits rfl
  | element :: rest, depth, fits => by
      have atElement := isLimited_ofElement limit element depth fits
      have atRest := isLimited_ofElements limit rest depth fits
      rw [Json.levelsAll, ← Nat.add_max_add_left]
      rw [ofElements]
      exact atElement.andThen fun tree => atRest.map (tree :: ·)

end

/--
An array is too deep for a limit if it has more levels than the limit allows.
-/
theorem isLimited_ofJson (limit : Nat) (elements : List Json) :
    (ofJson limit (.array elements)).IsLimited limit
      (Json.array elements).levels := by
  have atDepth := isLimited_ofElement limit (.array elements) 0 (Nat.zero_le _)
  rwa [Nat.zero_add] at atDepth

/-! ## The guard of texts -/

/--
A text whose brackets stay within the limit is read as the value that it holds.
-/
theorem ofText_of_peak_le {limit : Nat} {text : String} {value : Json}
    (decoded : Json.read text = .ok value) (fits : Json.peak text ≤ limit + 1) :
    ofText limit text = ofJson limit value := by
  rw [ofText, if_neg (Nat.not_lt.mpr fits), decoded]

/-- A text whose brackets go beyond the limit is refused before it is decoded. -/
theorem ofText_of_lt_peak {limit : Nat} {text : String}
    (deep : limit + 1 < Json.peak text) :
    ofText limit text = .fail (.tooDeep limit) := by
  rw [ofText, if_pos deep]

/--
The guard may add with a greatest number that is never exceeded, such as that
of a machine word, if no text is longer than that.
-/
theorem ofText_eq_of_length_le {greatest : Nat} (limit : Nat) {text : String}
    (short : text.length ≤ greatest) :
    ofText limit text =
      if min (limit + 1) greatest < Json.peak text then .fail (.tooDeep limit)
      else match Json.read text with
        | .ok value => ofJson limit value
        | .error failure => .fail (.input (.malformed failure)) := by
  simp only [Json.min_lt_peak_iff limit short]
  rfl

/--
A text that holds an array and the array itself are taken alike.  The text may
be refused where the array is not, but only because of an object in it, and
the array is refused for nothing but its depth.
-/
theorem ofText_agrees_ofJson (limit : Nat) {text : String} {elements : List Json}
    (decoded : Json.read text = .ok (.array elements)) :
    (∀ tree, (ofText limit text).outcome = .ok tree →
      (ofJson limit (.array elements)).outcome = .ok tree) ∧
      (∀ fault, (ofJson limit (.array elements)).outcome = .error fault →
        fault = .tooDeep limit ∧
          (ofText limit text).outcome = .error (.tooDeep limit)) ∧
      ((Json.array elements).isObjectFree = true →
        (ofText limit text).outcome =
          (ofJson limit (.array elements)).outcome) := by
  have limited := isLimited_ofJson limit elements
  have atLeast := Json.levels_le_peak decoded
  rcases Nat.lt_or_ge (limit + 1) (Json.peak text) with deep | fits
  · have refused := ofText_of_lt_peak deep
    refine ⟨?_, ?_, ?_⟩
    · intro tree accepted
      simp [refused] at accepted
    · intro fault failed
      obtain ⟨tooDeep, _⟩ := limited.of_error failed
      exact ⟨tooDeep, by simp [refused]⟩
    · intro objectFree
      rw [Json.peak_eq_levels decoded objectFree] at deep
      rw [refused, limited.refused deep]
      rfl
  · rw [ofText_of_peak_le decoded fits]
    refine ⟨?_, ?_, ?_⟩
    · intro tree accepted
      exact accepted
    · intro fault failed
      obtain ⟨_, deep⟩ := limited.of_error failed
      exact absurd (Nat.le_trans atLeast fits) (Nat.not_le.mpr deep)
    · intro _
      rfl

/--
A text with brackets and quotes inside its strings, and with a surrogate pair.
-/
def markedText : String :=
  "[\"]\\\"[\\\\\", [ [\"\\ud83d\\ude00\\u005b\"], null ] ]"

/-- What the text holds. -/
def markedElements : List Json :=
  [.string "]\"[\\", .array [.array [.string "😀["], .null]]

/-- The tree of what the text holds. -/
def markedTree : Tree :=
  .labeled "]\"[\\" [.unlabeled [.labeled "😀[" [], .leaf "null"]]

/-- Three arrays are too deep for the limit one, and not for the limit two. -/
theorem ofText_agrees_ofJson_markedText :
    Json.read markedText = .ok (.array markedElements) ∧
      (Json.array markedElements).isObjectFree = true ∧
      (ofText 1 markedText).outcome = .error (.tooDeep 1) ∧
      (ofText 2 markedText).outcome = .ok markedTree := by
  have decoded : Json.read markedText = .ok (.array markedElements) := by
    decide +kernel
  have objectFree : (Json.array markedElements).isObjectFree = true := by decide
  have deep :
      (ofJson 1 (.array markedElements)).outcome = .error (.tooDeep 1) := by
    decide +kernel
  have fits : (ofJson 2 (.array markedElements)).outcome = .ok markedTree := by
    decide +kernel
  obtain ⟨_, refused, _⟩ := ofText_agrees_ofJson 1 decoded
  obtain ⟨_, _, same⟩ := ofText_agrees_ofJson 2 decoded
  exact ⟨decoded, objectFree, (refused _ deep).2, (same objectFree).trans fits⟩

/-- An object counts as deep in a text, and as a word in a value. -/
example :
    (ofText 0 "[\x7b\x7d]").outcome = .error (.tooDeep 0) ∧
      (ofJson 0 (.array [.object []])).outcome =
        .ok (.unlabeled [.leaf "\x7b\x7d"]) := by
  decide +kernel

end Tree

end LojbanTree
