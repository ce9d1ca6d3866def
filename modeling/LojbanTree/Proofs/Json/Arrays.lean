import LojbanTree.Proofs.Json.Strings

/-!
# Arrays of strings in JSON text

Values that consist of strings and arrays only are read back from their compact
text, and the scan for nesting finds in it as many levels as the value has.
Both are stated for a text that goes on after the value, so that the induction
over nested arrays goes through.
-/

namespace LojbanTree

namespace Json

/-! ## Textual values -/

mutual

/-- Whether a value consists of strings and arrays only. -/
def isTextual : Json → Bool
  | .string _ => true
  | .array elements => areTextual elements
  | .null | .boolean _ | .number _ | .object _ => false

/-- Whether all values of a list consist of strings and arrays only. -/
def areTextual : List Json → Bool
  | [] => true
  | value :: rest => isTextual value && areTextual rest

end

mutual

/-- How many arrays are nested in a value, the value itself included. -/
def levels : Json → Nat
  | .array elements => levelsAll elements + 1
  | .null | .boolean _ | .number _ | .string _ | .object _ => 0

/-- How many arrays are nested in the values of a list. -/
def levelsAll : List Json → Nat
  | [] => 0
  | value :: rest => max (levels value) (levelsAll rest)

end

/-- The text of a textual value begins with a quote or a bracket. -/
theorem chars_eq_cons {value : Json} (textual : value.isTextual = true) :
    ∃ first rest, value.chars = first :: rest ∧ (first = '"' ∨ first = '[') := by
  cases value with
  | string text =>
      exact ⟨'"', text.toList.flatMap escape ++ ['"'], by simp [chars, quoted],
        .inl rfl⟩
  | array elements =>
      exact ⟨'[', elementChars elements ++ [']'], by simp [chars], .inr rfl⟩
  | null => simp [isTextual] at textual
  | boolean value => simp [isTextual] at textual
  | number value => simp [isTextual] at textual
  | object members => simp [isTextual] at textual

/-- The text of two elements or more has a comma after the first of them. -/
theorem elementChars_cons_cons (value next : Json) (rest : List Json) :
    elementChars (value :: next :: rest) =
      value.chars ++ ',' :: elementChars (next :: rest) := by
  simp [elementChars]

theorem elementChars_eq_cons {value : Json} (textual : value.isTextual = true)
    (rest : List Json) :
    ∃ first more, elementChars (value :: rest) = first :: more ∧
      (first = '"' ∨ first = '[') := by
  obtain ⟨first, more, begins, kind⟩ := chars_eq_cons textual
  cases rest with
  | nil => exact ⟨first, more, by simp [elementChars, begins], kind⟩
  | cons next rest =>
      exact ⟨first, more ++ ',' :: elementChars (next :: rest),
        by simp [elementChars_cons_cons, begins], kind⟩

theorem dropBlanks_cons {first : Char} (rest : List Char)
    (kind : first = '"' ∨ first = '[' ∨ first = ']' ∨ first = ',') :
    dropBlanks (first :: rest) = first :: rest := by
  rcases kind with rfl | rfl | rfl | rfl <;> simp [dropBlanks, isBlank]

/-! ## Reading -/

/-- A printed string is read back as a value. -/
theorem readValue_quoted (text : String) (fuel : Nat)
    (enough : text.toList.length ≤ fuel) (rest : List Char) :
    readValue (fuel + 1) (quoted text ++ rest) = .ok (.string text, rest) := by
  have inside :=
    readString_escaped text (fuel + 1) rest (Nat.lt_succ_of_le enough)
  simp [quoted, readValue, dropBlanks_cons, inside, bind, Except.bind]

/-- An array with elements is read as soon as its elements are. -/
theorem readValue_array {value : Json} {more : List Json} {fuel : Nat}
    {rest : List Char} (textual : value.isTextual = true)
    (inside : readElements fuel (elementChars (value :: more) ++ ']' :: rest) =
      .ok (value :: more, rest)) :
    readValue (fuel + 1) ((Json.array (value :: more)).chars ++ rest) =
      .ok (.array (value :: more), rest) := by
  obtain ⟨first, text, begins, kind⟩ := elementChars_eq_cons textual more
  rw [begins, List.cons_append] at inside
  rcases kind with rfl | rfl <;>
    simp [chars, begins, inside, readValue, dropBlanks_cons, bind, Except.bind]

/-- An element is read and then the bracket after it. -/
theorem readElements_last {value : Json} {fuel : Nat} {rest : List Char}
    (inside : readValue fuel (value.chars ++ ']' :: rest) =
      .ok (value, ']' :: rest)) :
    readElements (fuel + 1) (elementChars [value] ++ ']' :: rest) =
      .ok ([value], rest) := by
  simp [elementChars, readElements, inside, dropBlanks_cons, bind, Except.bind]

/-- An element is read and then the elements after its comma. -/
theorem readElements_next {value next : Json} {more : List Json} {fuel : Nat}
    {rest : List Char} (textual : next.isTextual = true)
    (inside : ∀ rest, readValue fuel (value.chars ++ rest) = .ok (value, rest))
    (after : readElements fuel (elementChars (next :: more) ++ ']' :: rest) =
      .ok (next :: more, rest)) :
    readElements (fuel + 1) (elementChars (value :: next :: more) ++ ']' :: rest) =
      .ok (value :: next :: more, rest) := by
  obtain ⟨first, text, begins, kind⟩ := elementChars_eq_cons textual more
  rw [begins, List.cons_append] at after
  rw [elementChars_cons_cons, begins]
  rcases kind with rfl | rfl <;>
    simp [readElements, inside, after, dropBlanks_cons, bind, Except.bind]

mutual

/--
A textual value is read back, and the text after it is left.  Every element
costs one step for itself and one for its list, and has at least one character.
-/
theorem readValue_chars :
    (value : Json) → value.isTextual = true → (fuel : Nat) →
      2 * value.chars.length ≤ fuel → (rest : List Char) →
        readValue fuel (value.chars ++ rest) = .ok (value, rest)
  | .string text, _, fuel, enough, rest => by
      have long := length_le_length_escaped text.toList
      simp only [chars, quoted, List.length_cons, List.length_append] at enough
      cases fuel with
      | zero => omega
      | succ fuel =>
          simpa [chars] using readValue_quoted text fuel (by omega) rest
  | .array [], _, fuel, enough, rest => by
      cases fuel with
      | zero => simp [chars] at enough
      | succ fuel => simp [chars, elementChars, readValue, dropBlanks_cons]
  | .array (value :: more), textual, fuel, enough, rest => by
      simp only [chars, List.length_cons, List.length_append] at enough
      cases fuel with
      | zero => omega
      | succ fuel =>
          have elements := readElements_elementChars value more
            (by simpa [isTextual] using textual) fuel (by omega) rest
          simp only [isTextual, areTextual, Bool.and_eq_true] at textual
          exact readValue_array textual.1 elements

/-- Elements are read back up to the bracket that ends them. -/
theorem readElements_elementChars :
    (value : Json) → (more : List Json) → areTextual (value :: more) = true →
      (fuel : Nat) → 2 * (elementChars (value :: more)).length + 1 ≤ fuel →
        (rest : List Char) →
          readElements fuel (elementChars (value :: more) ++ ']' :: rest) =
            .ok (value :: more, rest)
  | value, [], textual, fuel, enough, rest => by
      simp only [areTextual, Bool.and_eq_true] at textual
      simp only [elementChars] at enough
      cases fuel with
      | zero => omega
      | succ fuel =>
          exact readElements_last
            (readValue_chars value textual.1 fuel (by omega) (']' :: rest))
  | value, next :: more, textual, fuel, enough, rest => by
      simp only [areTextual, Bool.and_eq_true] at textual
      obtain ⟨valueTextual, nextTextual, moreTextual⟩ := textual
      simp only [elementChars_cons_cons, List.length_append, List.length_cons]
        at enough
      cases fuel with
      | zero => omega
      | succ fuel =>
          apply readElements_next nextTextual
          · exact readValue_chars value valueTextual fuel (by omega)
          · exact readElements_elementChars next more
              (by simp [areTextual, nextTextual, moreTextual]) fuel (by omega) rest

end

/-- A textual value is what its compact text holds. -/
theorem read_compact {value : Json} (textual : value.isTextual = true) :
    read value.compact = .ok value := by
  have whole := readValue_chars value textual (2 * value.chars.length + 2)
    (by omega) []
  rw [List.append_nil] at whole
  have decoded : readAll value.chars = .ok value := by
    simp [readAll, whole, dropBlanks, bind, Except.bind]
  rw [read, compact, String.toList_ofList, decoded]
  rfl

/-! ## Nesting -/

mutual

/-- The scan for nesting rises to the levels of a value and comes back. -/
theorem peakFrom_chars :
    (value : Json) → value.isTextual = true →
      (peak depth : Nat) → depth ≤ peak → (rest : List Char) →
        peakFrom peak depth .outside (value.chars ++ rest) =
          peakFrom (max peak (depth + value.levels)) depth .outside rest
  | .string text, _, peak, depth, below, rest => by
      have same : max peak (depth + 0) = peak := by omega
      rw [chars, peakFrom_quoted, levels, same]
  | .array elements, textual, peak, depth, below, rest => by
      have inside :=
        peakFrom_elementChars elements (by simpa [isTextual] using textual)
        (max peak (depth + 1)) (depth + 1) (by omega) (']' :: rest)
      have same :
          max (max peak (depth + 1)) (depth + 1 + levelsAll elements) =
            max peak (depth + (levelsAll elements + 1)) := by omega
      simp [chars, peakFrom, inside, levels, same]

/-- The same for the elements of an array. -/
theorem peakFrom_elementChars :
    (elements : List Json) → areTextual elements = true →
      (peak depth : Nat) → depth ≤ peak → (rest : List Char) →
        peakFrom peak depth .outside (elementChars elements ++ rest) =
          peakFrom (max peak (depth + levelsAll elements)) depth .outside rest
  | [], _, peak, depth, below, rest => by
      have same : max peak depth = peak := by omega
      simp [elementChars, levelsAll, same]
  | [value], textual, peak, depth, below, rest => by
      simp only [areTextual, Bool.and_eq_true] at textual
      simpa [elementChars, levelsAll] using
        peakFrom_chars value textual.1 peak depth below rest
  | value :: next :: more, textual, peak, depth, below, rest => by
      simp only [areTextual, Bool.and_eq_true] at textual
      obtain ⟨valueTextual, nextTextual, moreTextual⟩ := textual
      have atRest := peakFrom_elementChars (next :: more)
        (by simp [areTextual, nextTextual, moreTextual])
        (max peak (depth + value.levels)) depth (by omega) rest
      have same :
          max (max peak (depth + value.levels))
            (depth + levelsAll (next :: more)) =
            max peak (depth + max value.levels (levelsAll (next :: more))) := by
        omega
      rw [elementChars_cons_cons, List.append_assoc, List.cons_append,
        peakFrom_chars value valueTextual peak depth below, levelsAll]
      simp [peakFrom, atRest, same]

end

/-- The brackets of a textual value are nested as deeply as its arrays. -/
theorem peak_compact {value : Json} (textual : value.isTextual = true) :
    peak value.compact = value.levels := by
  have whole := peakFrom_chars value textual 0 0 (Nat.le_refl 0) []
  rw [List.append_nil] at whole
  simp [peak, compact, whole, peakFrom]

end Json

end LojbanTree
