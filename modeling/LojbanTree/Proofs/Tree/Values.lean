import LojbanTree.Proofs.Tree.DepthLimit
import LojbanTree.Proofs.Tree.RoundTrip

/-!
# What is read from a decoded value

A value is not a tree if it is no array, and it is too deep if one of its arrays
is.  Every other value is read, whatever its elements are: an element that is
neither a string nor an array is kept as its compact text, and there is one
warning for each of them.  `Tree.ofJson_outcomes` says so, with the array form
of the tree that is read in place of the tree itself.
-/

namespace LojbanTree

namespace Json

/-! ## Odd elements -/

mutual

/--
The value in which every odd element has become the string of its compact text.
-/
def worded : Json → Json
  | .string text => .string text
  | .array elements => .array (wordedAll elements)
  | odd => .string odd.compact

/-- Several values in which every odd element has become a string. -/
def wordedAll : List Json → List Json
  | [] => []
  | value :: rest => worded value :: wordedAll rest

end

mutual

/-- The elements that are neither strings nor arrays, in the order of the text. -/
def oddElements : Json → List Json
  | .string _ => []
  | .array elements => oddElementsAll elements
  | odd => [odd]

/-- The odd elements of several values. -/
def oddElementsAll : List Json → List Json
  | [] => []
  | value :: rest => oddElements value ++ oddElementsAll rest

end

/-- The warnings for the odd elements of a value. -/
def warnings (odd : List Json) : List Entry :=
  odd.map fun element => .oddElement element.kind

@[simp]
theorem warnings_append (left right : List Json) :
    warnings (left ++ right) = warnings left ++ warnings right := by
  simp [warnings]

theorem level_of_mem_warnings {odd : List Json} {entry : Entry}
    (written : entry ∈ warnings odd) : entry.level = .warning := by
  obtain ⟨element, _, rfl⟩ := List.mem_map.mp written
  rfl

/-- A warning names the kind of its element. -/
theorem words_warnings (odd : List Json) :
    (warnings odd).map (fun entry => (entry.level, entry.message)) =
      odd.map fun element =>
        (.warning, "unexpected " ++ element.kind.name ++
          " in parse tree, keeping it as opaque leaf text") := by
  rw [warnings, List.map_map]
  rfl

/-! ## Arrays inside arrays -/

mutual

/-- Words have no levels, like the odd elements whose place they take. -/
theorem levels_worded : (value : Json) → value.worded.levels = value.levels
  | .array elements => by rw [worded, levels, levels, levelsAll_wordedAll elements]
  | .null | .boolean _ | .number _ | .string _ | .object _ => by
      simp [worded, levels]

theorem levelsAll_wordedAll :
    (elements : List Json) → levelsAll (wordedAll elements) = levelsAll elements
  | [] => rfl
  | value :: rest => by
      rw [wordedAll, levelsAll, levelsAll, levels_worded value,
        levelsAll_wordedAll rest]

end

/--
A value has an array at a depth, counted in arrays from the outermost one.  What
an object holds does not count.
-/
inductive HasArrayAt : Json → Nat → Prop where
  | whole (elements : List Json) : HasArrayAt (.array elements) 0
  | within {element : Json} {elements : List Json} {depth : Nat}
      (member : element ∈ elements) (inside : HasArrayAt element depth) :
      HasArrayAt (.array elements) (depth + 1)

mutual

/-- There are as many levels as the deepest array needs. -/
theorem lt_levels_iff :
    (value : Json) → (bound : Nat) →
      (bound < value.levels ↔ ∃ depth, bound ≤ depth ∧ value.HasArrayAt depth)
  | .array elements, 0 => by
      have atRoot : ∃ depth, 0 ≤ depth ∧ (Json.array elements).HasArrayAt depth :=
        ⟨0, Nat.le_refl 0, .whole elements⟩
      exact iff_of_true (by simp [levels]) atRoot
  | .array elements, bound + 1 => by
      rw [levels, Nat.succ_lt_succ_iff, lt_levelsAll_iff elements bound]
      constructor
      · rintro ⟨element, member, depth, placed, inside⟩
        exact ⟨depth + 1, Nat.succ_le_succ placed, .within member inside⟩
      · rintro ⟨depth, placed, array⟩
        cases array with
        | whole => simp at placed
        | @within element _ depth member inside =>
            exact ⟨element, member, depth, Nat.le_of_succ_le_succ placed, inside⟩
  | .null, bound | .boolean _, bound | .number _, bound | .string _, bound
  | .object _, bound => by
      simp only [levels, Nat.not_lt_zero, false_iff]
      rintro ⟨depth, _, array⟩
      cases array

/-- The same for one of several values. -/
theorem lt_levelsAll_iff :
    (elements : List Json) → (bound : Nat) →
      (bound < levelsAll elements ↔
        ∃ element ∈ elements, ∃ depth, bound ≤ depth ∧ element.HasArrayAt depth)
  | [], bound => by simp [levelsAll]
  | element :: rest, bound => by
      simp only [List.mem_cons, exists_eq_or_imp]
      rw [← lt_levels_iff element bound, ← lt_levelsAll_iff rest bound, levelsAll]
      omega

end

end Json

namespace Tree

/-! ## Reading within the limit -/

/-- A label is written in front of the children, where it was read. -/
theorem toJson_arrayNode {elements : List Json} {trees : List Tree}
    (written : toJsonAll trees = Json.wordedAll elements) :
    (arrayNode elements trees).toJson = (Json.array elements).worded := by
  rw [Json.worded, ← written]
  unfold arrayNode
  split
  case h_1 name rest =>
    match trees with
    | [] => simp [toJsonAll, Json.wordedAll] at written
    | first :: others =>
        simp only [toJsonAll, Json.wordedAll, Json.worded,
          List.cons.injEq] at written
        simp [toJson, toJsonAll, written.1]
  case h_2 => rw [toJson]

mutual

/-- A value within the limit is read with a warning for each odd element. -/
theorem exists_ofElement (limit : Nat) :
    (value : Json) → (depth : Nat) → depth + value.levels ≤ limit + 1 →
      ∃ tree, ofElement limit depth value =
        ⟨Json.warnings value.oddElements, .ok tree⟩ ∧
        tree.toJson = value.worded
  | .string text, depth, _ => by
      exact ⟨.leaf text,
        by simp [ofElement, Json.oddElements, Json.warnings, Run.done],
        by simp [toJson, Json.worded]⟩
  | .array elements, depth, fits => by
      rw [Json.levels] at fits
      obtain ⟨trees, read, written⟩ :=
        exists_ofElements limit elements (depth + 1) (by omega)
      refine ⟨arrayNode elements trees, ?_, toJson_arrayNode written⟩
      rw [ofElement_array, checkDepth_of_le (by omega), Run.andThen_done, read]
      rfl
  | .null, depth, _ => ⟨.leaf _, rfl, rfl⟩
  | .boolean _, depth, _ => ⟨.leaf _, rfl, rfl⟩
  | .number _, depth, _ => ⟨.leaf _, rfl, rfl⟩
  | .object _, depth, _ => ⟨.leaf _, rfl, rfl⟩

/-- Values within the limit are read one after another. -/
theorem exists_ofElements (limit : Nat) :
    (elements : List Json) → (depth : Nat) →
      depth + Json.levelsAll elements ≤ limit + 1 →
      ∃ trees,
        ofElements limit depth elements =
          ⟨Json.warnings (Json.oddElementsAll elements), .ok trees⟩ ∧
        toJsonAll trees = Json.wordedAll elements
  | [], depth, _ => ⟨[], rfl, rfl⟩
  | element :: rest, depth, fits => by
      rw [Json.levelsAll] at fits
      obtain ⟨tree, read, written⟩ :=
        exists_ofElement limit element depth (by omega)
      obtain ⟨trees, readRest, writtenRest⟩ :=
        exists_ofElements limit rest depth (by omega)
      refine ⟨tree :: trees, ?_, ?_⟩
      · simp [ofElements, read, readRest, Run.andThen, Run.map,
          Json.oddElementsAll, Except.map]
      · simp [toJsonAll, Json.wordedAll, written, writtenRest]

end

/-! ## The ends of reading -/

/-- A value has an array beyond the limit if and only if it has too many levels. -/
theorem exists_deep_iff (limit : Nat) (value : Json) :
    (∃ depth, limit < depth ∧ value.HasArrayAt depth) ↔ limit + 1 < value.levels :=
  (Json.lt_levels_iff value (limit + 1)).symm

/-- An array within the limit is read, with a warning for each odd element. -/
theorem exists_ofJson {limit : Nat} {elements : List Json}
    (fits : (Json.array elements).levels ≤ limit + 1) :
    ∃ tree,
      ofJson limit (.array elements) =
        ⟨Json.warnings (Json.array elements).oddElements, .ok tree⟩ ∧
      tree.toJson = (Json.array elements).worded :=
  exists_ofElement limit (.array elements) 0 (by omega)

theorem eq_array_of_ofJson {limit : Nat} {value : Json} {tree : Tree}
    (read : (ofJson limit value).outcome = .ok tree) :
    ∃ elements, value = .array elements := by
  cases value with
  | array elements => exact ⟨elements, rfl⟩
  | null | boolean _ | number _ | string _ | object _ => simp [ofJson] at read

/--
A tree that was read is an inner node, because no word is written as an array, and
it has as many levels as its value.
-/
theorem levels_of_ofJson {limit : Nat} {value : Json} {tree : Tree}
    (read : (ofJson limit value).outcome = .ok tree) :
    tree.isLeaf = false ∧ tree.levels = value.levels ∧
      value.levels ≤ limit + 1 := by
  obtain ⟨elements, rfl⟩ := eq_array_of_ofJson read
  have fits : (Json.array elements).levels ≤ limit + 1 := by
    apply Nat.not_lt.mp
    intro deep
    rw [(isLimited_ofJson limit elements).refused deep] at read
    simp at read
  obtain ⟨same, readAgain, written⟩ := exists_ofJson fits
  rw [readAgain, Except.ok.injEq] at read
  subst read
  refine ⟨?_, ?_, fits⟩
  · cases same with
    | leaf text => simp [toJson, Json.worded] at written
    | labeled name children => rfl
    | unlabeled children => rfl
  · rw [← levels_toJson, written, Json.levels_worded]

/-- A tree that was read is within the limit. -/
theorem nesting_le_of_ofJson {limit : Nat} {value : Json} {tree : Tree}
    (read : (ofJson limit value).outcome = .ok tree) : tree.nesting ≤ limit := by
  obtain ⟨inner, same, fits⟩ := levels_of_ofJson read
  have counted := levels_eq_nesting_add_one inner
  omega

theorem nesting_le_of_ofText {limit : Nat} {text : String} {tree : Tree}
    (read : (ofText limit text).outcome = .ok tree) : tree.nesting ≤ limit := by
  unfold ofText at read
  split at read
  case isTrue deep => simp at read
  case isFalse shallow =>
    split at read
    case h_1 value decoded => exact nesting_le_of_ofJson read
    case h_2 failure malformed => simp at read

/-- Reading fails for the input or for its depth, and never for a format. -/
theorem outcome_ofJson_ne_format (limit : Nat) (value : Json)
    (fault : FormatFault) :
    (ofJson limit value).outcome ≠ .error (.format fault) := by
  intro failed
  cases value with
  | array elements =>
      have tooDeep := ((isLimited_ofJson limit elements).of_error failed).1
      simp at tooDeep
  | null | boolean _ | number _ | string _ | object _ => simp [ofJson] at failed

theorem outcome_ofText_ne_format (limit : Nat) (text : String)
    (fault : FormatFault) :
    (ofText limit text).outcome ≠ .error (.format fault) := by
  intro failed
  unfold ofText at failed
  split at failed
  case isTrue deep => simp at failed
  case isFalse shallow =>
    split at failed
    case h_1 value decoded =>
      exact outcome_ofJson_ne_format limit value fault failed
    case h_2 failure malformed => simp at failed

/-- Reading a text fails for its depth, for its kind or because it is not JSON. -/
theorem fault_of_ofText {limit : Nat} {text : String} {fault : Fault}
    (failed : (ofText limit text).outcome = .error fault) :
    fault = .tooDeep limit ∨ (∃ kind, fault = .input (.notArray kind)) ∨
      ∃ failure, fault = .input (.malformed failure) := by
  unfold ofText at failed
  split at failed
  case isTrue deep => exact .inl (Except.error.inj failed).symm
  case isFalse shallow =>
    split at failed
    case h_1 value decoded =>
      cases value with
      | array elements =>
          exact .inl ((isLimited_ofJson limit elements).of_error failed).1
      | null | boolean _ | number _ | string _ | object _ =>
          exact .inr (.inl ⟨_, (Except.error.inj failed).symm⟩)
    case h_2 failure malformed =>
      exact .inr (.inr ⟨failure, (Except.error.inj failed).symm⟩)

/--
What becomes of a value: it is refused for its kind if and only if it is no
array, and for its depth if and only if one of its arrays lies beyond the limit.
Otherwise its tree is written as the value with words for its odd elements, each
of which has given one warning in its turn, in words that name its kind.
-/
theorem ofJson_outcomes (limit : Nat) (value : Json) :
    ((∃ fault, (ofJson limit value).outcome = .error (.input fault)) ↔
      value.kind ≠ .array) ∧
    (value.kind = .array →
      ((ofJson limit value).outcome = .error (.tooDeep limit) ↔
        ∃ depth, limit < depth ∧ value.HasArrayAt depth) ∧
      ((¬ ∃ depth, limit < depth ∧ value.HasArrayAt depth) →
        ∃ tree, (ofJson limit value).outcome = .ok tree ∧
          tree.toJson = value.worded ∧
          (ofJson limit value).entries =
            (value.oddElements.map fun odd => .oddElement odd.kind) ∧
          (∀ entry ∈ (ofJson limit value).entries, entry.level = .warning) ∧
          (ofJson limit value).entries.map
              (fun entry => (entry.level, entry.message)) =
            value.oddElements.map fun odd =>
              (.warning, "unexpected " ++ odd.kind.name ++
                " in parse tree, keeping it as opaque leaf text"))) := by
  cases value with
  | array elements =>
      have limited := isLimited_ofJson limit elements
      rw [exists_deep_iff]
      simp only [Json.kind, ne_eq, not_true_eq_false, iff_false, forall_const]
      refine ⟨?_, ?_, ?_⟩
      · rintro ⟨fault, failed⟩
        have tooDeep := (limited.of_error failed).1
        simp at tooDeep
      · constructor
        · intro failed
          exact (limited.of_error failed).2
        · exact limited.refused
      · intro fits
        obtain ⟨tree, read, written⟩ := exists_ofJson (Nat.not_lt.mp fits)
        rw [read]
        refine ⟨tree, rfl, written, rfl, ?_, ?_⟩
        · intro entry
          exact Json.level_of_mem_warnings
        · exact Json.words_warnings _
  | null | boolean _ | number _ | string _ | object _ =>
      simp [ofJson, Json.kind]

/-- Elements of every kind, the odd ones in front and inside too. -/
def mixedElements : List Json :=
  [ .null, .string "PA", .array [.boolean true, .array []],
    .object [("a", .array [.array [.array []]])], .number (.integer 3) ]

/-- The elements with words for the odd ones. -/
def wordedElements : List Json :=
  [ .string "null", .string "PA", .array [.string "true", .array []],
    .string "\x7b\"a\":[[[]]]\x7d", .string "3" ]

/-- The arrays inside the object do not count, and the empty array does. -/
theorem ofJson_outcomes_mixedElements :
    (Json.array mixedElements).kind = .array ∧
      (ofJson 1 (.array mixedElements)).outcome = .error (.tooDeep 1) ∧
      ∃ tree, (ofJson 2 (.array mixedElements)).outcome = .ok tree ∧
        tree.toJson = .array wordedElements ∧
        (ofJson 2 (.array mixedElements)).entries =
          [.oddElement .null, .oddElement .boolean, .oddElement .object,
            .oddElement .number] ∧
        (ofJson 2 (.array mixedElements)).entries.map
            (fun entry => (entry.level, entry.message)) =
          [ (.warning,
              "unexpected null in parse tree, keeping it as opaque leaf text"),
            (.warning,
              "unexpected boolean in parse tree, keeping it as opaque leaf text"),
            (.warning,
              "unexpected object in parse tree, keeping it as opaque leaf text"),
            (.warning,
              "unexpected number in parse tree, keeping it as opaque leaf text")
          ] := by
  have isArray : (Json.array mixedElements).kind = .array := rfl
  have emptyArray : (Json.array mixedElements).HasArrayAt 2 := by
    have inside : (Json.array [.boolean true, .array []]).HasArrayAt 1 :=
      .within (by decide) (.whole [])
    exact .within (by decide) inside
  have fits :
      ¬ ∃ depth, 2 < depth ∧ (Json.array mixedElements).HasArrayAt depth := by
    rw [exists_deep_iff]
    decide
  have words : (Json.array mixedElements).worded = .array wordedElements := by
    decide +kernel
  obtain ⟨_, atOne⟩ := ofJson_outcomes 1 (.array mixedElements)
  obtain ⟨_, atTwo⟩ := ofJson_outcomes 2 (.array mixedElements)
  obtain ⟨tree, read, written, warned, _, said⟩ := (atTwo isArray).2 fits
  refine ⟨isArray, (atOne isArray).1.mpr ⟨2, by decide, emptyArray⟩, tree, read,
    ?_, warned, ?_⟩
  · rw [written, words]
  · rw [said]
    decide

end Tree

end LojbanTree
